import Tchuno.Library.Action

/-!
# What an action leaves behind

Rules for two kinds of statement about actions: that one outcome meets a postcondition,
which follows the statements of the action with what its checks have found; and that an
action preserves a property of the store whatever its checks find.
-/

namespace Tchuno.Library

variable {σ ω ε α β : Type}

/-! ## Postconditions -/

/-- The action returned a value and a state as in `after`, or threw in a state as in
`failed`. -/
def Outcome.Meets (after : α → σ → Prop) (failed : σ → Prop) (outcome : Outcome σ ω ε α) :
    Prop :=
  match outcome.result with
  | .ok value => after value outcome.state
  | .error _ => failed outcome.state

namespace Action

section Postconditions

variable {after : α → σ → Prop} {failed : σ → Prop} {state : σ}

theorem meets_pure {value : α} (met : after value state) :
    ((pure value : Action σ ω ε α) state).Meets after failed :=
  met

theorem meets_inspect {view : σ → α} (met : after (view state) state) :
    ((inspect view : Action σ ω ε α) state).Meets after failed :=
  met

theorem meets_consult {checks : σ → Except ε α}
    (passed : ∀ value, checks state = .ok value → after value state) (refused : failed state) :
    ((consult checks : Action σ ω ε α) state).Meets after failed := by
  unfold consult Outcome.Meets
  cases checked : checks state with
  | ok value =>
      exact passed value checked
  | error error =>
      exact refused

theorem meets_bind {first : Action σ ω ε β} {next : β → Action σ ω ε α}
    {middle : β → σ → Prop} (early : (first state).Meets middle failed)
    (late : ∀ value between, middle value between →
      (next value between).Meets after failed) :
    ((first >>= next) state).Meets after failed := by
  rcases opened : first state with ⟨result, between, calls⟩
  rw [opened] at early
  cases result with
  | ok value =>
      rw [bind_of_ok opened]
      exact late value between early
  | error error =>
      rw [bind_of_error opened]
      exact early

theorem meets_inspect_bind {view : σ → β} {next : β → Action σ ω ε α}
    (late : (next (view state) state).Meets after failed) :
    ((inspect view >>= next) state).Meets after failed :=
  late

theorem meets_alter_bind {update : σ → σ} {next : Unit → Action σ ω ε α}
    (late : (next () (update state)).Meets after failed) :
    ((alter update >>= next) state).Meets after failed :=
  late

theorem meets_consult_bind {checks : σ → Except ε β} {next : β → Action σ ω ε α}
    (passed : ∀ value, checks state = .ok value → (next value state).Meets after failed)
    (refused : failed state) :
    ((consult checks >>= next) state).Meets after failed := by
  rw [consult_bind_apply]
  cases checked : checks state with
  | ok value =>
      exact passed value checked
  | error error =>
      exact refused

theorem meets_require_bind {condition : Prop} [Decidable condition] {error : ε}
    {next : Unit → Action σ ω ε α}
    (passed : condition → (next () state).Meets after failed) (refused : failed state) :
    ((require condition error >>= next) state).Meets after failed := by
  rw [require_bind_apply]
  split_ifs with met
  · exact passed met
  · exact refused

/-- A body that throws leaves the state in which it began. -/
theorem meets_transaction {body : Action σ ω ε α}
    (met : (body state).Meets after fun _ => failed state) :
    (transaction body state).Meets after failed := by
  rcases opened : body state with ⟨result, between, calls⟩
  rw [opened] at met
  cases result with
  | ok value =>
      rw [transaction_of_ok opened]
      exact met
  | error error =>
      rw [transaction_of_error opened]
      exact met

theorem state_of_meets {action : Action σ ω ε α} {property : σ → Prop}
    (met : (action state).Meets (fun _ => property) property) :
    property (action state).state := by
  rcases opened : action state with ⟨result, between, calls⟩
  rw [opened] at met
  cases result with
  | ok value =>
      exact met
  | error error =>
      exact met

end Postconditions

/-! ## Preservation -/

/-- Whatever the action does, the property survives. -/
def Preserves (property : σ → Prop) (action : Action σ ω ε α) : Prop :=
  ∀ state, property state → property (action state).state

section Preservation

variable {property : σ → Prop}

theorem preserves_pure (value : α) : Preserves property (pure value : Action σ ω ε α) :=
  fun _ holds => holds

theorem preserves_inspect (view : σ → α) :
    Preserves property (inspect view : Action σ ω ε α) :=
  fun _ holds => holds

theorem preserves_consult (checks : σ → Except ε α) :
    Preserves property (consult checks : Action σ ω ε α) :=
  fun _ holds => holds

theorem preserves_require (condition : Prop) [Decidable condition] (error : ε) :
    Preserves property (require condition error : Action σ ω ε Unit) :=
  fun _ holds => holds

theorem preserves_call (request : ω) :
    Preserves property (call request : Action σ ω ε Unit) :=
  fun _ holds => holds

theorem preserves_alter {update : σ → σ}
    (kept : ∀ state, property state → property (update state)) :
    Preserves property (alter update : Action σ ω ε Unit) :=
  kept

theorem preserves_bind {first : Action σ ω ε β} {next : β → Action σ ω ε α}
    (early : Preserves property first) (late : ∀ value, Preserves property (next value)) :
    Preserves property (first >>= next) := by
  intro state holds
  have between := early state holds
  rcases opened : first state with ⟨result, middle, calls⟩
  rw [opened] at between
  cases result with
  | ok value =>
      rw [bind_of_ok opened]
      exact late value middle between
  | error error =>
      rw [bind_of_error opened]
      exact between

theorem preserves_transaction {body : Action σ ω ε α} (kept : Preserves property body) :
    Preserves property (transaction body) := by
  intro state holds
  have after := kept state holds
  rcases opened : body state with ⟨result, middle, calls⟩
  rw [opened] at after
  cases result with
  | ok value =>
      rw [transaction_of_ok opened]
      exact after
  | error error =>
      rw [transaction_of_error opened]
      exact holds

theorem preserves_ite {condition : Prop} [Decidable condition] {first second : Action σ ω ε α}
    (positive : Preserves property first) (negative : Preserves property second) :
    Preserves property (if condition then first else second) := by
  split_ifs
  · exact positive
  · exact negative

end Preservation

end Action

end Tchuno.Library
