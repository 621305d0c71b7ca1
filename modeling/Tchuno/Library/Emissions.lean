import Tchuno.Library.Action

/-!
# The calls an action may make

`Emits allowed action` says that all calls which the action makes to the outside world, in
whatever state it starts and however it ends, are of the allowed kind.  The rules follow the
statements of the action.
-/

namespace Tchuno.Library

variable {σ ω ε α β : Type} {allowed : ω → Prop}

namespace Action

def Emits (allowed : ω → Prop) (action : Action σ ω ε α) : Prop :=
  ∀ state, ∀ call ∈ (action state).calls, allowed call

/-- An action without calls of its own. -/
theorem emits_of_silent {action : Action σ ω ε α} (silent : ∀ state, (action state).calls = []) :
    Emits allowed action := by
  intro state call member
  rw [silent state] at member
  cases member

theorem emits_pure (value : α) : Emits allowed (pure value : Action σ ω ε α) :=
  emits_of_silent fun _ => rfl

theorem emits_inspect (view : σ → α) : Emits allowed (inspect view : Action σ ω ε α) :=
  emits_of_silent fun _ => rfl

theorem emits_consult (checks : σ → Except ε α) :
    Emits allowed (consult checks : Action σ ω ε α) :=
  emits_of_silent fun _ => rfl

theorem emits_alter (update : σ → σ) : Emits allowed (alter update : Action σ ω ε Unit) :=
  emits_of_silent fun _ => rfl

theorem emits_require (condition : Prop) [Decidable condition] (error : ε) :
    Emits allowed (require condition error : Action σ ω ε Unit) :=
  emits_of_silent fun _ => rfl

theorem emits_call {request : ω} (permitted : allowed request) :
    Emits allowed (call request : Action σ ω ε Unit) := by
  intro state call member
  obtain rfl := List.mem_singleton.mp member
  exact permitted

theorem emits_bind {first : Action σ ω ε β} {next : β → Action σ ω ε α}
    (early : Emits allowed first) (late : ∀ value, Emits allowed (next value)) :
    Emits allowed (first >>= next) := by
  intro state call member
  rcases opened : first state with ⟨result, between, calls⟩
  have earlyCalls := early state
  rw [opened] at earlyCalls
  cases result with
  | ok value =>
      rw [bind_of_ok opened, Outcome.after_calls] at member
      rcases List.mem_append.mp member with known | later
      · exact earlyCalls call known
      · exact late value between call later
  | error error =>
      rw [bind_of_error opened] at member
      exact earlyCalls call member

theorem emits_transaction {body : Action σ ω ε α} (emits : Emits allowed body) :
    Emits allowed (transaction body) := by
  intro state call member
  refine emits state call ?_
  rw [transaction] at member
  cases returned : (body state).result <;> simpa [returned] using member

theorem emits_ite (condition : Prop) [Decidable condition] {first second : Action σ ω ε α}
    (early : Emits allowed first) (late : Emits allowed second) :
    Emits allowed (if condition then first else second) := by
  split_ifs
  · exact early
  · exact late

end Action

end Tchuno.Library
