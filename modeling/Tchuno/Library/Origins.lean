import Mathlib.Data.List.Induction
import Tchuno.Library.Machine

/-!
# Where a condition comes from

What holds at the end of a run and not at its start began at some step, and has held ever
since the last such step.
-/

namespace Tchuno.Library.Machine

universe u v

variable {State : Type u} {Input : Type v} {machine : Machine State Input}
  {condition : State → Prop} {start : State}

/-- The step at which the condition begins for good. -/
structure Begins (machine : Machine State Input) (condition : State → Prop) (start : State)
    (before : List Input) (input : Input) (after : List Input) : Prop where
  fresh : ¬ condition (machine.run start before)
  lasts : ∀ early late, after = early ++ late →
    condition (machine.run start (before ++ input :: early))

theorem run_append_singleton (start : State) (inputs : List Input) (input : Input) :
    machine.run start (inputs ++ [input]) = machine.step (machine.run start inputs) input := by
  rw [run_append]
  rfl

/-- The condition holds right after the step at which it begins. -/
theorem Begins.now {before : List Input} {input : Input} {after : List Input}
    (begins : machine.Begins condition start before input after) :
    condition (machine.step (machine.run start before) input) := by
  rw [← run_append_singleton]
  exact begins.lasts [] after rfl

theorem Begins.extend {before : List Input} {input : Input} {after : List Input}
    (begins : machine.Begins condition start before input after) {latest : Input}
    (still : condition (machine.run start (before ++ input :: (after ++ [latest])))) :
    machine.Begins condition start before input (after ++ [latest]) where
  fresh := begins.fresh
  lasts := by
    intro early late split
    rcases List.eq_nil_or_concat' late with rfl | ⟨rest, last, rfl⟩
    · rw [List.append_nil] at split
      rw [← split]
      exact still
    · rw [← List.append_assoc] at split
      exact begins.lasts early rest (List.append_inj' split rfl).1

/-- A property of every step, seen from the start of the run. -/
theorem along_of_splits {property : State → Input → Prop} {inputs : List Input}
    (each : ∀ early input late, inputs = early ++ input :: late →
      property (machine.run start early) input) :
    machine.Along property start inputs := by
  induction inputs generalizing start with
  | nil =>
      trivial
  | cons input rest inductionHypothesis =>
      refine ⟨each [] input rest rfl, inductionHypothesis fun early later late split => ?_⟩
      exact each (input :: early) later late (by rw [split, List.cons_append])

/-- What holds now and did not at the start has begun at some step. -/
theorem exists_begins (fresh : ¬ condition start) {inputs : List Input}
    (holds : condition (machine.run start inputs)) :
    ∃ before input after, inputs = before ++ input :: after ∧
      machine.Begins condition start before input after := by
  induction inputs using List.reverseRecOn with
  | nil =>
      exact absurd holds fresh
  | append_singleton inputs latest inductionHypothesis =>
      by_cases held : condition (machine.run start inputs)
      · obtain ⟨before, input, after, split, begins⟩ := inductionHypothesis held
        refine ⟨before, input, after ++ [latest], ?_, begins.extend ?_⟩
        · rw [split, List.append_assoc, List.cons_append]
        · rw [split, List.append_assoc, List.cons_append] at holds
          exact holds
      · refine ⟨inputs, latest, [], rfl, held, ?_⟩
        intro early late nothing
        rw [(List.append_eq_nil_iff.mp nothing.symm).1]
        exact holds

end Tchuno.Library.Machine
