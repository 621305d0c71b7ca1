import Mathlib.Data.List.Basic

/-!
# Programs over a store, with failures, rollback and external calls

An action reads and writes a store, may fail, and records the calls it makes to
the outside world.  A failure keeps what was written before it, because each
statement commits on its own; inside `transaction` it restores the store.  The
recorded calls survive every failure: the outside world is never rolled back.
-/

namespace Tchuno.Library

/-- What one action leaves behind. -/
structure Outcome (σ ω ε α : Type) where
  result : Except ε α
  state : σ
  calls : List ω

namespace Outcome

variable {σ ω ε α : Type}

/-- The action threw. -/
def Failed (outcome : Outcome σ ω ε α) : Prop :=
  ∀ value, outcome.result ≠ .ok value

theorem failed_of_error (error : ε) (state : σ) (calls : List ω) :
    Failed (⟨.error error, state, calls⟩ : Outcome σ ω ε α) :=
  fun _ returned => nomatch returned

instance (outcome : Outcome σ ω ε α) : Decidable outcome.Failed :=
  match same : outcome.result with
  | .ok value => isFalse fun failed => failed value same
  | .error _ => isTrue fun _ returned => nomatch same.symm.trans returned

/-- Put earlier calls in front of the recorded ones. -/
def after (outcome : Outcome σ ω ε α) (earlier : List ω) : Outcome σ ω ε α :=
  { outcome with calls := earlier ++ outcome.calls }

@[simp]
theorem after_result (outcome : Outcome σ ω ε α) (earlier : List ω) :
    (outcome.after earlier).result = outcome.result := rfl

@[simp]
theorem after_state (outcome : Outcome σ ω ε α) (earlier : List ω) :
    (outcome.after earlier).state = outcome.state := rfl

@[simp]
theorem after_calls (outcome : Outcome σ ω ε α) (earlier : List ω) :
    (outcome.after earlier).calls = earlier ++ outcome.calls := rfl

@[simp]
theorem after_nil (outcome : Outcome σ ω ε α) : outcome.after [] = outcome := rfl

end Outcome

/-- A program over the store `σ` which may call `ω` and throw `ε`. -/
def Action (σ ω ε α : Type) : Type :=
  σ → Outcome σ ω ε α

namespace Action

variable {σ ω ε α β : Type}

/-- Return a value and touch nothing. -/
protected def pure (value : α) : Action σ ω ε α :=
  fun state => ⟨.ok value, state, []⟩

/-- Sequential composition; a failure skips what follows. -/
protected def bind (first : Action σ ω ε α) (next : α → Action σ ω ε β) :
    Action σ ω ε β :=
  fun state =>
    let outcome := first state
    match outcome.result with
    | .ok value => (next value outcome.state).after outcome.calls
    | .error error => ⟨.error error, outcome.state, outcome.calls⟩

instance : Monad (Action σ ω ε) where
  pure := Action.pure
  bind := Action.bind

/-- Throw. -/
def fail (error : ε) : Action σ ω ε α :=
  fun state => ⟨.error error, state, []⟩

/-- Read the store. -/
def inspect (view : σ → α) : Action σ ω ε α :=
  fun state => ⟨.ok (view state), state, []⟩

/-- Run checks which read the store and may throw, but write nothing. -/
def consult (checks : σ → Except ε α) : Action σ ω ε α :=
  fun state => ⟨checks state, state, []⟩

/-- Write the store. -/
def alter (update : σ → σ) : Action σ ω ε Unit :=
  fun state => ⟨.ok (), update state, []⟩

/-- Throw unless the condition holds. -/
def require (condition : Prop) [Decidable condition] (error : ε) :
    Action σ ω ε Unit :=
  fun state => ⟨if condition then .ok () else .error error, state, []⟩

/-- Call the outside world. -/
def call (request : ω) : Action σ ω ε Unit :=
  fun state => ⟨.ok (), state, [request]⟩

/-- Undo every write of a body that throws. -/
def transaction (body : Action σ ω ε α) : Action σ ω ε α :=
  fun state =>
    let outcome := body state
    match outcome.result with
    | .ok value => ⟨.ok value, outcome.state, outcome.calls⟩
    | .error error => ⟨.error error, state, outcome.calls⟩

/-- Catch what the body throws. -/
def attempt {ε' : Type} (body : Action σ ω ε α) : Action σ ω ε' (Except ε α) :=
  fun state =>
    let outcome := body state
    ⟨.ok outcome.result, outcome.state, outcome.calls⟩

/-- Rename what the body throws. -/
def mapError {ε' : Type} (rename : ε → ε') (body : Action σ ω ε α) : Action σ ω ε' α :=
  fun state =>
    let outcome := body state
    ⟨outcome.result.mapError rename, outcome.state, outcome.calls⟩

/-! ## Symbolic execution -/

section Execution

variable (state : σ)

@[simp]
theorem pure_apply (value : α) :
    (pure value : Action σ ω ε α) state = ⟨.ok value, state, []⟩ := rfl

@[simp]
theorem pure_bind_apply (value : α) (next : α → Action σ ω ε β) :
    (pure value >>= next) state = next value state := rfl

@[simp]
theorem fail_apply (error : ε) :
    (fail error : Action σ ω ε α) state = ⟨.error error, state, []⟩ := rfl

@[simp]
theorem fail_bind_apply (error : ε) (next : α → Action σ ω ε β) :
    (fail error >>= next) state = ⟨.error error, state, []⟩ := rfl

@[simp]
theorem inspect_apply (view : σ → α) :
    (inspect view : Action σ ω ε α) state = ⟨.ok (view state), state, []⟩ := rfl

@[simp]
theorem inspect_bind_apply (view : σ → α) (next : α → Action σ ω ε β) :
    (inspect view >>= next) state = next (view state) state := rfl

theorem consult_bind_apply (checks : σ → Except ε α)
    (next : α → Action σ ω ε β) :
    (consult checks >>= next) state =
      match checks state with
      | .ok value => next value state
      | .error error => ⟨.error error, state, []⟩ := by
  change Action.bind (consult checks) next state = _
  simp only [Action.bind, consult]
  cases checks state <;> rfl

@[simp]
theorem alter_apply (update : σ → σ) :
    (alter update : Action σ ω ε Unit) state = ⟨.ok (), update state, []⟩ := rfl

@[simp]
theorem alter_bind_apply (update : σ → σ) (next : Unit → Action σ ω ε β) :
    (alter update >>= next) state = next () (update state) := rfl

theorem require_bind_apply (condition : Prop) [Decidable condition] (error : ε)
    (next : Unit → Action σ ω ε β) :
    (require condition error >>= next) state =
      if condition then next () state else ⟨.error error, state, []⟩ := by
  change Action.bind (require condition error) next state = _
  simp only [Action.bind, require]
  split_ifs <;> rfl

@[simp]
theorem call_bind_apply (request : ω) (next : Unit → Action σ ω ε β) :
    (call request >>= next) state = (next () state).after [request] := rfl

/-- Peel a first action whose outcome is known. -/
theorem bind_of_ok {first : Action σ ω ε α} {next : α → Action σ ω ε β}
    {state middle : σ} {value : α} {calls : List ω}
    (outcome : first state = ⟨.ok value, middle, calls⟩) :
    (first >>= next) state = (next value middle).after calls := by
  change Action.bind first next state = _
  simp only [Action.bind, outcome]

theorem bind_of_error {first : Action σ ω ε α} {next : α → Action σ ω ε β}
    {state middle : σ} {error : ε} {calls : List ω}
    (outcome : first state = ⟨.error error, middle, calls⟩) :
    (first >>= next) state = ⟨.error error, middle, calls⟩ := by
  change Action.bind first next state = _
  simp only [Action.bind, outcome]

/-- A sequence which returns has run both its parts. -/
theorem exists_of_bind_eq_ok {first : Action σ ω ε α} {next : α → Action σ ω ε β}
    {state : σ} {result : β} (returned : ((first >>= next) state).result = .ok result) :
    ∃ value, (first state).result = .ok value ∧
      (next value (first state).state).result = .ok result ∧
      ((first >>= next) state).state = (next value (first state).state).state := by
  rcases opened : first state with ⟨outcome, middle, calls⟩
  cases outcome with
  | error error =>
      rw [bind_of_error opened] at returned
      cases returned
  | ok value =>
      rw [bind_of_ok opened] at returned ⊢
      exact ⟨value, rfl, returned, rfl⟩

@[simp]
theorem bind_assoc_apply {γ : Type} (first : Action σ ω ε α)
    (second : α → Action σ ω ε β) (third : β → Action σ ω ε γ) :
    (first >>= second >>= third) state =
      (first >>= fun value => second value >>= third) state := by
  rcases opened : first state with ⟨result, middle, calls⟩
  cases result with
  | error error =>
      rw [bind_of_error opened, bind_of_error (bind_of_error opened)]
  | ok value =>
      rw [bind_of_ok opened]
      rcases continued : second value middle with ⟨later, last, others⟩
      cases later with
      | error error =>
          rw [bind_of_error continued]
          refine bind_of_error ?_
          rw [bind_of_ok opened, continued]
          rfl
      | ok inner =>
          rw [bind_of_ok continued]
          have both : (first >>= second) state =
              ⟨.ok inner, last, calls ++ others⟩ := by
            rw [bind_of_ok opened, continued]
            rfl
          rw [bind_of_ok both]
          simp [Outcome.after, List.append_assoc]

/-- What follows without writing leaves the state alone. -/
theorem state_bind_of_reads {first : Action σ ω ε α} {next : α → Action σ ω ε β}
    (reads : ∀ value middle, (next value middle).state = middle) (state : σ) :
    ((first >>= next) state).state = (first state).state := by
  rcases opened : first state with ⟨result, middle, calls⟩
  cases result with
  | error error =>
      rw [bind_of_error opened]
  | ok value =>
      rw [bind_of_ok opened, Outcome.after_state, reads]

/-- What follows without writing or calling leaves state and calls alone. -/
theorem bind_of_reads {first : Action σ ω ε α} {next : α → Action σ ω ε β}
    (reads : ∀ value middle, (next value middle).state = middle ∧
      (next value middle).calls = [])
    (state : σ) :
    ((first >>= next) state).state = (first state).state ∧
      ((first >>= next) state).calls = (first state).calls ∧
      ((first state).Failed → ((first >>= next) state).Failed) := by
  rcases opened : first state with ⟨result, middle, calls⟩
  cases result with
  | error error =>
      rw [bind_of_error opened]
      exact ⟨rfl, rfl, fun _ => Outcome.failed_of_error error middle calls⟩
  | ok value =>
      obtain ⟨sameState, noCalls⟩ := reads value middle
      rw [bind_of_ok opened, Outcome.after_state, Outcome.after_calls, sameState, noCalls,
        List.append_nil]
      exact ⟨rfl, rfl, fun failed => absurd rfl (failed value)⟩

theorem attempt_bind_apply {ε' : Type} (body : Action σ ω ε α)
    (next : Except ε α → Action σ ω ε' β) :
    (attempt body >>= next) state =
      (next (body state).result (body state).state).after (body state).calls := rfl

@[simp]
theorem mapError_state {ε' : Type} (rename : ε → ε') (body : Action σ ω ε α) :
    (mapError rename body state).state = (body state).state := rfl

theorem transaction_of_ok {body : Action σ ω ε α} {state : σ} {value : α}
    {after : σ} {calls : List ω}
    (outcome : body state = ⟨.ok value, after, calls⟩) :
    transaction body state = ⟨.ok value, after, calls⟩ := by
  simp only [transaction, outcome]

theorem transaction_of_error {body : Action σ ω ε α} {state : σ} {error : ε}
    {after : σ} {calls : List ω}
    (outcome : body state = ⟨.error error, after, calls⟩) :
    transaction body state = ⟨.error error, state, calls⟩ := by
  simp only [transaction, outcome]

end Execution

end Action

end Tchuno.Library
