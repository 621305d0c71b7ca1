import Mathlib.Data.List.Forall2
import Tchuno.Library.Action
import Tchuno.Library.Machine
import Tchuno.Library.Table

/-!
# Two runs compared

What stays the same when a program is run twice on stores which differ only in
what some reader cannot see.  A relation between stores is carried through the
statements of a program, through the rows of a table, and through the inputs of
a machine.
-/

namespace Tchuno.Library

universe u

/-! ## Tables -/

/-- The rows agree one by one, and so do the identifiers to come. -/
structure Table.Alike {ρ : Type u} [Keyed ρ] (alike : ρ → ρ → Prop)
    (first second : Table ρ) : Prop where
  nextId : first.nextId = second.nextId
  rows : List.Forall₂ alike first.rows second.rows

/-- The first accepted elements of lists that agree one by one. -/
theorem find?_of_forall₂ {ρ : Type u} {alike : ρ → ρ → Prop} {accept : ρ → Bool}
    (agrees : ∀ row other, alike row other → accept row = accept other)
    {first second : List ρ} (rows : List.Forall₂ alike first second) :
    Option.Rel alike (first.find? accept) (second.find? accept) := by
  induction rows with
  | nil =>
      exact .none
  | @cons row other _ _ same _ inductionHypothesis =>
      have sameAnswer := agrees row other same
      cases answer : accept row with
      | true =>
          rw [List.find?_cons_of_pos answer, List.find?_cons_of_pos (sameAnswer ▸ answer)]
          exact .some same
      | false =>
          have refused : ¬ accept row = true := by simp [answer]
          have otherRefused : ¬ accept other = true := by simp [← sameAnswer, answer]
          rw [List.find?_cons_of_neg refused, List.find?_cons_of_neg otherRefused]
          exact inductionHypothesis

section Options

variable {α β τ : Type u} {alike : α → β → Prop} {first other : Option α}
  {second another : Option β}

theorem or_of_rel (both : Option.Rel alike first second)
    (otherwise : Option.Rel alike other another) :
    Option.Rel alike (first.or other) (second.or another) := by
  cases both with
  | none => exact otherwise
  | some same => exact .some same

theorem map_eq_of_rel (both : Option.Rel alike first second) {read : α → τ} {readOther : β → τ}
    (same : ∀ row other, alike row other → read row = readOther other) :
    first.map read = second.map readOther := by
  cases both with
  | none => rfl
  | some agree => exact congrArg some (same _ _ agree)

end Options

namespace Table.Alike

variable {ρ : Type u} [Keyed ρ] {alike : ρ → ρ → Prop} {first second : Table ρ}

theorem refl (reflexive : ∀ row, alike row row) (table : Table ρ) : Alike alike table table where
  nextId := rfl
  rows := by
    rw [List.forall₂_same]
    exact fun row _ => reflexive row

theorem findFirst? (tables : Alike alike first second) {accept : ρ → Bool}
    (agrees : ∀ row other, alike row other → accept row = accept other) :
    Option.Rel alike (first.findFirst? accept) (second.findFirst? accept) :=
  find?_of_forall₂ agrees tables.rows

theorem find? (tables : Alike alike first second)
    (sameKey : ∀ row other, alike row other → Keyed.key row = Keyed.key other) (id : Nat) :
    Option.Rel alike (first.find? id) (second.find? id) :=
  find?_of_forall₂ (fun row other same => by rw [sameKey row other same]) tables.rows

theorem insert (tables : Alike alike first second) {make other : Nat → ρ}
    (keyed : ∀ id, Keyed.key (make id) = id) (otherKeyed : ∀ id, Keyed.key (other id) = id)
    (same : ∀ id, alike (make id) (other id)) :
    Alike alike (first.insert make keyed) (second.insert other otherKeyed) where
  nextId := congrArg (· + 1) tables.nextId
  rows := by
    have newest : alike (make first.nextId) (other second.nextId) := by
      rw [← tables.nextId]
      exact same first.nextId
    exact .cons newest tables.rows

theorem update (tables : Alike alike first second) (id : Nat) {change other : ρ → ρ}
    (keeps : ∀ row, Keyed.key (change row) = Keyed.key row)
    (otherKeeps : ∀ row, Keyed.key (other row) = Keyed.key row)
    (sameKey : ∀ row row', alike row row' → Keyed.key row = Keyed.key row')
    (same : ∀ row row', alike row row' → alike (change row) (other row')) :
    Alike alike (first.update id change keeps) (second.update id other otherKeeps) where
  nextId := tables.nextId
  rows := by
    simp only [Table.update, Table.updateMany]
    refine List.rel_map ?_ tables.rows
    intro row row' agree
    simp only [sameKey row row' agree]
    split_ifs
    · exact same row row' agree
    · exact agree

end Table.Alike

/-! ## Programs -/

section Programs

variable {σ ω ε α β γ δ : Type}

/-- Both returned, with values that agree, or both threw the same. -/
inductive SameResult (agree : α → β → Prop) : Except ε α → Except ε β → Prop where
  | ok {value : α} {other : β} (same : agree value other) :
      SameResult agree (.ok value) (.ok other)
  | error (error : ε) : SameResult agree (.error error) (.error error)

/-- From related stores to related stores, with results that agree. -/
def Action.Matches (related : σ → σ → Prop) (agree : α → β → Prop)
    (first : Action σ ω ε α) (second : Action σ ω ε β) : Prop :=
  ∀ state other, related state other →
    SameResult agree (first state).result (second other).result ∧
      related (first state).state (second other).state

namespace Action

variable {related : σ → σ → Prop} {agree : α → β → Prop}

theorem matches_pure {value : α} {other : β} (same : agree value other) :
    Matches related agree (pure value : Action σ ω ε α) (pure other) :=
  fun _ _ relatedStates => ⟨.ok same, relatedStates⟩

theorem matches_inspect {view : σ → α} {otherView : σ → β}
    (same : ∀ state other, related state other → agree (view state) (otherView other)) :
    Matches related agree (inspect view : Action σ ω ε α) (inspect otherView) :=
  fun state other relatedStates => ⟨.ok (same state other relatedStates), relatedStates⟩

theorem matches_consult {checks : σ → Except ε α} {otherChecks : σ → Except ε β}
    (same : ∀ state other, related state other →
      SameResult agree (checks state) (otherChecks other)) :
    Matches related agree (consult checks : Action σ ω ε α) (consult otherChecks) :=
  fun state other relatedStates => ⟨same state other relatedStates, relatedStates⟩

theorem matches_alter {update otherUpdate : σ → σ}
    (kept : ∀ state other, related state other → related (update state) (otherUpdate other)) :
    Matches related Eq (alter update : Action σ ω ε Unit) (alter otherUpdate) :=
  fun state other relatedStates => ⟨.ok rfl, kept state other relatedStates⟩

theorem matches_call (request : ω) :
    Matches related Eq (call request : Action σ ω ε Unit) (call request) :=
  fun _ _ relatedStates => ⟨.ok rfl, relatedStates⟩

theorem matches_require (condition : Prop) [Decidable condition] (error : ε) :
    Matches related Eq (require condition error : Action σ ω ε Unit)
      (require condition error) := by
  intro state other relatedStates
  refine ⟨?_, relatedStates⟩
  simp only [require]
  split_ifs
  · exact .ok rfl
  · exact .error error

/-- One statement after the other. -/
theorem matches_bind {first : Action σ ω ε α} {second : Action σ ω ε β}
    {next : α → Action σ ω ε γ} {otherNext : β → Action σ ω ε δ} {agreeLater : γ → δ → Prop}
    (begins : Matches related agree first second)
    (continues : ∀ value other, agree value other →
      Matches related agreeLater (next value) (otherNext other)) :
    Matches related agreeLater (first >>= next) (second >>= otherNext) := by
  intro state other relatedStates
  obtain ⟨sameResult, relatedMiddle⟩ := begins state other relatedStates
  rcases opened : first state with ⟨result, middle, calls⟩
  rcases openedOther : second other with ⟨otherResult, otherMiddle, otherCalls⟩
  rw [opened, openedOther] at sameResult relatedMiddle
  cases sameResult with
  | error error =>
      rw [bind_of_error opened, bind_of_error openedOther]
      exact ⟨.error error, relatedMiddle⟩
  | ok same =>
      rw [bind_of_ok opened, bind_of_ok openedOther]
      exact continues _ _ same middle otherMiddle relatedMiddle

/-- Both bodies commit, or both are rolled back. -/
theorem matches_transaction {first : Action σ ω ε α} {second : Action σ ω ε β}
    (bodies : Matches related agree first second) :
    Matches related agree (transaction first) (transaction second) := by
  intro state other relatedStates
  obtain ⟨sameResult, relatedMiddle⟩ := bodies state other relatedStates
  rcases opened : first state with ⟨result, middle, calls⟩
  rcases openedOther : second other with ⟨otherResult, otherMiddle, otherCalls⟩
  rw [opened, openedOther] at sameResult relatedMiddle
  cases sameResult with
  | error error =>
      rw [transaction_of_error opened, transaction_of_error openedOther]
      exact ⟨.error error, relatedStates⟩
  | ok same =>
      rw [transaction_of_ok opened, transaction_of_ok openedOther]
      exact ⟨.ok same, relatedMiddle⟩

end Action

end Programs

/-! ## Machines -/

namespace Machine

universe v

variable {State : Type u} {Input : Type v} (machine : Machine State Input)

/-- Two copies of a machine, each fed with its own input. -/
def twice : Machine (State × State) (Input × Input) where
  step states inputs := (machine.step states.1 inputs.1, machine.step states.2 inputs.2)

theorem run_twice (first second : State) (inputs : List (Input × Input)) :
    machine.twice.run (first, second) inputs =
      (machine.run first (inputs.map Prod.fst), machine.run second (inputs.map Prod.snd)) := by
  induction inputs generalizing first second with
  | nil =>
      rfl
  | cons input rest inductionHypothesis =>
      exact inductionHypothesis (machine.step first input.1) (machine.step second input.2)

/-- Two runs whose steps all keep the relation end in related states. -/
theorem related_runs {related : State → State → Prop} {condition : State × State →
      Input × Input → Prop}
    (kept : ∀ first second inputs, related first second → condition (first, second) inputs →
      related (machine.step first inputs.1) (machine.step second inputs.2))
    {first second : State} (start : related first second) {inputs : List (Input × Input)}
    (along : machine.twice.Along condition (first, second) inputs) :
    related (machine.run first (inputs.map Prod.fst))
      (machine.run second (inputs.map Prod.snd)) := by
  have ends := @run_invariant _ _ machine.twice (fun states => related states.1 states.2)
    condition (fun states inputs holds met => kept states.1 states.2 inputs holds met)
    (first, second) start inputs along
  rw [run_twice] at ends
  exact ends

end Machine

end Tchuno.Library
