import Mathlib.Data.List.Basic

/-!
# Deterministic machines and their runs

A machine is a total step function.  A run feeds it a list of inputs.  Two
kinds of statement are packaged here once:

* an invariant of the initial states which every step preserves holds in every
  reachable state;
* a property of single steps holds along a run exactly when a condition on the
  states before those steps does.
-/

namespace Tchuno.Library

universe u v

/-- A machine which answers every input in every state. -/
structure Machine (State : Type u) (Input : Type v) where
  step : State → Input → State

namespace Machine

variable {State : Type u} {Input : Type v}

/-- The state after feeding the inputs in order. -/
def run (machine : Machine State Input) : State → List Input → State
  | state, [] => state
  | state, input :: rest => machine.run (machine.step state input) rest

/-- States reached from an initial state by finitely many steps. -/
inductive Reachable (machine : Machine State Input) (initial : State → Prop) :
    State → Prop
  | start {state : State} :
      initial state → Reachable machine initial state
  | next {state : State} (input : Input) :
      Reachable machine initial state →
      Reachable machine initial (machine.step state input)

/-- The property holds at every step of the run. -/
def Along (machine : Machine State Input) (property : State → Input → Prop) :
    State → List Input → Prop
  | _, [] => True
  | state, input :: rest =>
      property state input ∧ machine.Along property (machine.step state input) rest

instance decidableAlong (machine : Machine State Input) (property : State → Input → Prop)
    [∀ state input, Decidable (property state input)] :
    ∀ (state : State) (inputs : List Input), Decidable (machine.Along property state inputs)
  | _, [] => isTrue trivial
  | state, input :: rest =>
      have := decidableAlong machine property (machine.step state input) rest
      inferInstanceAs (Decidable (property state input ∧ _))

variable (machine : Machine State Input)

@[simp]
theorem run_nil (state : State) : machine.run state [] = state := rfl

@[simp]
theorem run_cons (state : State) (input : Input) (rest : List Input) :
    machine.run state (input :: rest) =
      machine.run (machine.step state input) rest := rfl

@[simp]
theorem along_nil (property : State → Input → Prop) (state : State) :
    machine.Along property state [] := trivial

@[simp]
theorem along_cons (property : State → Input → Prop) (state : State)
    (input : Input) (rest : List Input) :
    machine.Along property state (input :: rest) ↔
      property state input ∧
        machine.Along property (machine.step state input) rest := Iff.rfl

theorem run_append (state : State) (first second : List Input) :
    machine.run state (first ++ second) =
      machine.run (machine.run state first) second := by
  induction first generalizing state with
  | nil =>
      rfl
  | cons input rest inductionHypothesis =>
      exact inductionHypothesis (machine.step state input)

/-- A run in two parts has the property if both parts have it. -/
theorem along_append (property : State → Input → Prop) (state : State)
    (first second : List Input) :
    machine.Along property state (first ++ second) ↔
      machine.Along property state first ∧
        machine.Along property (machine.run state first) second := by
  induction first generalizing state with
  | nil =>
      simp
  | cons input rest inductionHypothesis =>
      rw [List.cons_append, along_cons, along_cons, inductionHypothesis, run_cons, and_assoc]

theorem Reachable.run {machine : Machine State Input} {initial : State → Prop}
    {state : State} (reachable : machine.Reachable initial state)
    (inputs : List Input) :
    machine.Reachable initial (machine.run state inputs) := by
  induction inputs generalizing state with
  | nil =>
      exact reachable
  | cons input rest inductionHypothesis =>
      exact inductionHypothesis (reachable.next input)

/-- What holds initially and survives every step holds in every reachable
state. -/
theorem Reachable.invariant {machine : Machine State Input}
    {initial invariant : State → Prop}
    (base : ∀ state, initial state → invariant state)
    (preserved : ∀ state input, invariant state →
      invariant (machine.step state input))
    {state : State} (reachable : machine.Reachable initial state) :
    invariant state := by
  induction reachable with
  | start begins =>
      exact base _ begins
  | next input _ inductionHypothesis =>
      exact preserved _ input inductionHypothesis

/-- If, under an invariant which the condition keeps, the condition implies the
property, a run which meets the one has the other. -/
theorem Along.of_invariant {machine : Machine State Input} {invariant : State → Prop}
    {condition property : State → Input → Prop}
    (implies : ∀ state input, invariant state → condition state input →
      property state input)
    (preserved : ∀ state input, invariant state → condition state input →
      invariant (machine.step state input))
    {state : State} (holds : invariant state) {inputs : List Input}
    (along : machine.Along condition state inputs) :
    machine.Along property state inputs := by
  induction inputs generalizing state with
  | nil =>
      trivial
  | cons input rest inductionHypothesis =>
      exact ⟨implies _ _ holds along.1,
        inductionHypothesis (preserved _ _ holds along.1) along.2⟩

theorem Along.mono {machine : Machine State Input} {condition property : State → Input → Prop}
    (implies : ∀ state input, condition state input → property state input) {state : State}
    {inputs : List Input} (along : machine.Along condition state inputs) :
    machine.Along property state inputs :=
  @Along.of_invariant _ _ machine (fun _ => True) _ _
    (fun state input _ => implies state input) (fun _ _ _ _ => trivial) _ trivial _ along

theorem along_of_forall {machine : Machine State Input} {property : State → Input → Prop}
    (always : ∀ state input, property state input) {state : State} {inputs : List Input} :
    machine.Along property state inputs := by
  induction inputs generalizing state with
  | nil =>
      trivial
  | cons input rest inductionHypothesis =>
      exact ⟨always state input, inductionHypothesis⟩

theorem Along.and {machine : Machine State Input} {first second : State → Input → Prop}
    {state : State} {inputs : List Input}
    (alongFirst : machine.Along first state inputs)
    (alongSecond : machine.Along second state inputs) :
    machine.Along (fun state input => first state input ∧ second state input)
      state inputs := by
  induction inputs generalizing state with
  | nil =>
      trivial
  | cons input rest inductionHypothesis =>
      exact ⟨⟨alongFirst.1, alongSecond.1⟩, inductionHypothesis alongFirst.2 alongSecond.2⟩

/-- A property of the inputs alone joins a property of the steps. -/
theorem Along.and_forall_mem {machine : Machine State Input}
    {property : State → Input → Prop} {accepted : Input → Prop}
    {state : State} {inputs : List Input}
    (along : machine.Along property state inputs)
    (each : ∀ input ∈ inputs, accepted input) :
    machine.Along (fun state input => property state input ∧ accepted input)
      state inputs := by
  induction inputs generalizing state with
  | nil =>
      trivial
  | cons input rest inductionHypothesis =>
      exact ⟨⟨along.1, each input List.mem_cons_self⟩,
        inductionHypothesis along.2 fun later member =>
          each later (List.mem_cons_of_mem input member)⟩

/-- If, under the invariant, a step has the property exactly when the
condition holds before it, and such a step keeps the invariant, then a run has
the property throughout exactly when all its steps meet the condition. -/
theorem along_iff_along {invariant : State → Prop}
    {property condition : State → Input → Prop}
    (exact_step : ∀ state input, invariant state →
      (property state input ↔ condition state input))
    (preserved : ∀ state input, invariant state → condition state input →
      invariant (machine.step state input))
    {state : State} (holds : invariant state) (inputs : List Input) :
    machine.Along property state inputs ↔
      machine.Along condition state inputs := by
  induction inputs generalizing state with
  | nil =>
      simp
  | cons input rest inductionHypothesis =>
      rw [along_cons, along_cons, exact_step state input holds]
      refine and_congr_right fun met => ?_
      exact inductionHypothesis (preserved state input holds met)

/-- A run whose steps all meet the condition ends in the invariant. -/
theorem run_invariant {invariant : State → Prop}
    {condition : State → Input → Prop}
    (preserved : ∀ state input, invariant state → condition state input →
      invariant (machine.step state input))
    {state : State} (holds : invariant state) {inputs : List Input}
    (along : machine.Along condition state inputs) :
    invariant (machine.run state inputs) := by
  induction inputs generalizing state with
  | nil =>
      exact holds
  | cons input rest inductionHypothesis =>
      exact inductionHypothesis (preserved state input holds along.1) along.2

/-- What every step preserves holds at the end of every run. -/
theorem run_preserves (invariant : State → Prop)
    (preserved : ∀ state input, invariant state → invariant (machine.step state input))
    {state : State} (holds : invariant state) (inputs : List Input) :
    invariant (machine.run state inputs) :=
  @run_invariant _ _ machine invariant (fun _ _ => True)
    (fun state input before _ => preserved state input before) state holds inputs
    (along_of_forall fun _ _ => trivial)

/-- Inputs which come before others in the list are quiet, so the final state
keeps the invariant exactly when every step met its condition. -/
theorem run_iff_along {invariant : State → Prop}
    {admitted condition : State → Input → Prop} {quiet : Input → Prop}
    (exact_step : ∀ state input, invariant state → admitted state input →
      (invariant (machine.step state input) ↔ condition state input))
    (quiet_meets : ∀ state input, quiet input → condition state input)
    {state : State} (holds : invariant state) {inputs : List Input}
    (along : machine.Along admitted state inputs)
    (quietBefore : ∀ input ∈ inputs.dropLast, quiet input) :
    invariant (machine.run state inputs) ↔ machine.Along condition state inputs := by
  induction inputs generalizing state with
  | nil =>
      simpa using holds
  | cons input rest inductionHypothesis =>
      have atHead := exact_step state input holds along.1
      cases rest with
      | nil =>
          simpa using atHead
      | cons next others =>
          have met : condition state input :=
            quiet_meets state input (quietBefore input (by simp))
          have later := inductionHypothesis (atHead.mpr met) along.2
            fun late member => quietBefore late (by simp [member])
          rw [run_cons, later, along_cons machine condition state input]
          exact (and_iff_right met).symm

end Machine

end Tchuno.Library
