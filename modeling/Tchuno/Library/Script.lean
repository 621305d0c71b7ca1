import Tchuno.Library.ReadCommitted

/-!
# Programs which may throw

A script is a program which ends with a value or with an exception; an exception
skips what follows and rolls an open transaction back.  Inside a transaction the
statements are pending until its end, and a single statement is a transaction of
its own.
-/

namespace Tchuno.Library

/-- A program of a client which returns or throws. -/
def Script (σ ρ ε α : Type) : Type :=
  Program σ ρ (Except ε α)

namespace Script

variable {σ ρ ε α β : Type}

/-- Return a value. -/
protected def pure (value : α) : Script σ ρ ε α :=
  .done (.ok value)

/-- Sequential composition; an exception skips what follows. -/
protected def bind (first : Script σ ρ ε α) (next : α → Script σ ρ ε β) :
    Script σ ρ ε β :=
  Program.bind first fun result =>
    match result with
    | .ok value => next value
    | .error error => .done (.error error)

instance : Monad (Script σ ρ ε) where
  pure := Script.pure
  bind := Script.bind

/-- Throw. -/
def fail (error : ε) : Script σ ρ ε α :=
  .done (.error error)

/-- Read about a row. -/
def select (row : ρ) (view : σ → α) : Script σ ρ ε α :=
  .read row fun state => .done (.ok (view state))

/-- Read about a row and throw if what is read fails the checks. -/
def consult (row : ρ) (checks : σ → Except ε α) : Script σ ρ ε α :=
  .read row fun state => .done (checks state)

/-- Throw unless the condition holds. -/
def require (condition : Prop) [Decidable condition] (error : ε) : Script σ ρ ε Unit :=
  .done (if condition then .ok () else .error error)

/-- Go on with the value of checks made earlier, or throw what they have thrown. -/
def check (checked : Except ε α) : Script σ ρ ε α :=
  .done checked

/-- Wait for a row and lock it. -/
def lock (row : ρ) : Script σ ρ ε Unit :=
  Program.lock row (.done (.ok ()))

/-- Write, for the other clients to see after the commit. -/
def write (change : σ → σ) : Script σ ρ ε Unit :=
  Program.write change (.done (.ok ()))

/-- Lock several rows one after another. -/
def lockAll : List ρ → Script σ ρ ε Unit
  | [] => .done (.ok ())
  | row :: rest => Program.lock row (lockAll rest)

/-- Commit what the body has written, or undo it if the body throws. -/
def transaction (body : Script σ ρ ε α) : Script σ ρ ε α :=
  Program.bind body fun result =>
    match result with
    | .ok value => .commit (.done (.ok value))
    | .error error => .rollback (.done (.error error))

/-! ## Symbolic execution -/

section Execution

variable (next : α → Script σ ρ ε β)

@[simp]
theorem pure_bind (value : α) :
    (pure value >>= next : Script σ ρ ε β) = next value := rfl

@[simp]
theorem fail_bind (error : ε) :
    (fail error >>= next : Script σ ρ ε β) = fail error := rfl

theorem bind_assoc {γ : Type} (first : Script σ ρ ε α) (second : α → Script σ ρ ε β)
    (third : β → Script σ ρ ε γ) :
    (first >>= second >>= third : Script σ ρ ε γ) =
      first >>= fun value => second value >>= third := by
  refine (Program.bind_assoc (α := Except ε α) first _ _).trans ?_
  refine congrArg (Program.bind first) (funext fun result => ?_)
  cases result <;> rfl

end Execution

end Script

/-! ## What a program leaves alone -/

section Leaves

variable {σ ρ ι α β ε : Type}

/-- Every write keeps the relation; only with `commits` does the program end a
transaction. -/
def Program.Leaves (kept : σ → σ → Prop) (commits : Prop) : Program σ ρ α → Prop
  | .done _ => True
  | .halted => True
  | .read _ next => ∀ state, (next state).Leaves kept commits
  | .lock _ next => next.Leaves kept commits
  | .write change next => (∀ state, kept state (change state)) ∧ next.Leaves kept commits
  | .commit next => commits ∧ next.Leaves kept commits
  | .rollback next => commits ∧ next.Leaves kept commits

variable {kept : σ → σ → Prop} {commits : Prop}

theorem Program.Leaves.bind {program : Program σ ρ α} {continuation : α → Program σ ρ β}
    (leaves : program.Leaves kept commits)
    (continues : ∀ value, (continuation value).Leaves kept commits) :
    (program.bind continuation).Leaves kept commits := by
  induction program with
  | done value =>
      exact continues value
  | halted =>
      trivial
  | read row next inductionHypothesis =>
      exact fun state => inductionHypothesis state (leaves state)
  | lock row next inductionHypothesis =>
      exact inductionHypothesis leaves
  | write change next inductionHypothesis =>
      exact ⟨leaves.1, inductionHypothesis leaves.2⟩
  | commit next inductionHypothesis =>
      exact ⟨leaves.1, inductionHypothesis leaves.2⟩
  | rollback next inductionHypothesis =>
      exact ⟨leaves.1, inductionHypothesis leaves.2⟩

namespace Script

/-- Every write of the script keeps the relation. -/
def Leaves (kept : σ → σ → Prop) (commits : Prop) (script : Script σ ρ ε α) : Prop :=
  Program.Leaves kept commits script

theorem Leaves.bind {first : Script σ ρ ε α} {next : α → Script σ ρ ε β}
    (leaves : first.Leaves kept commits)
    (continues : ∀ value, (next value).Leaves kept commits) :
    (first >>= next : Script σ ρ ε β).Leaves kept commits := by
  refine Program.Leaves.bind leaves fun result => ?_
  cases result with
  | ok value =>
      exact continues value
  | error error =>
      trivial

theorem Leaves.transaction {body : Script σ ρ ε α} (leaves : body.Leaves kept True) :
    (Script.transaction body).Leaves kept True := by
  refine Program.Leaves.bind leaves fun result => ?_
  cases result <;> exact ⟨trivial, trivial⟩

theorem leaves_pure (value : α) :
    (pure value : Script σ ρ ε α).Leaves kept commits := trivial

theorem leaves_fail (error : ε) :
    (fail error : Script σ ρ ε α).Leaves kept commits := trivial

theorem leaves_select (row : ρ) (look : σ → α) :
    (select row look : Script σ ρ ε α).Leaves kept commits := fun _ => trivial

theorem leaves_consult (row : ρ) (checks : σ → Except ε α) :
    (consult row checks : Script σ ρ ε α).Leaves kept commits := fun _ => trivial

theorem leaves_require (condition : Prop) [Decidable condition] (error : ε) :
    (require condition error : Script σ ρ ε Unit).Leaves kept commits := trivial

theorem leaves_lock (row : ρ) :
    (lock row : Script σ ρ ε Unit).Leaves kept commits := trivial

theorem leaves_lockAll (rows : List ρ) :
    (lockAll rows : Script σ ρ ε Unit).Leaves kept commits := by
  induction rows with
  | nil =>
      trivial
  | cons row rest inductionHypothesis =>
      exact inductionHypothesis

theorem leaves_write {change : σ → σ} (keeps : ∀ state, kept state (change state)) :
    (write change : Script σ ρ ε Unit).Leaves kept commits := ⟨keeps, trivial⟩

end Script

namespace Discipline

variable {τ : Type} {discipline : Discipline τ σ ρ ι} {client : ι}

/-- A commit which keeps the relation keeps the discipline, whatever is locked. -/
structure Tolerates (discipline : Discipline τ σ ρ ι) (kept : σ → σ → Prop) : Prop where
  refl : ∀ state, kept state state
  trans : ∀ {first second third}, kept first second → kept second third → kept first third
  keeps : ∀ {before written}, kept (discipline.data before) written →
    discipline.invariant before →
    ∃ after, discipline.data after = written ∧ discipline.Keeps ∅ before after

/-- A program whose writes keep the relation is safe. -/
theorem safe_of_leaves {finish : α → Standing τ σ ρ → Prop} {standing : Standing τ σ ρ}
    {program : Program σ ρ α} (tolerates : discipline.Tolerates kept)
    (leaves : program.Leaves kept commits)
    (stable : discipline.Stable standing.held standing.know)
    (pending : ∀ state, kept state (standing.pending state))
    (ends : ∀ value middle, discipline.Stable middle.held middle.know →
      (∀ state, kept state (middle.pending state)) → finish value middle) :
    discipline.Safe client finish standing program := by
  induction program generalizing standing with
  | done value =>
      exact ends value standing stable pending
  | halted =>
      trivial
  | read row next inductionHypothesis =>
      intro state _ _ _
      exact ⟨fun _ => True, trivial, stable_true _,
        inductionHypothesis _ (leaves _) (stable_true _) pending⟩
  | lock row next inductionHypothesis =>
      intro state _ _ _
      exact ⟨fun _ => True, trivial, stable_true _,
        inductionHypothesis leaves (stable_true _) pending⟩
  | write change next inductionHypothesis =>
      refine inductionHypothesis leaves.2 stable fun state => ?_
      exact tolerates.trans (pending state) (leaves.1 _)
  | commit next inductionHypothesis =>
      intro state invariant _ _
      obtain ⟨after, written, keeps⟩ := tolerates.keeps (pending _) invariant
      exact ⟨after, written, keeps.mono (Set.empty_subset _), fun _ => True, trivial,
        stable_true _, inductionHypothesis leaves.2 (stable_true _) tolerates.refl⟩
  | rollback next inductionHypothesis =>
      exact ⟨fun _ => True, fun _ _ _ => trivial, stable_true _,
        inductionHypothesis leaves.2 (stable_true _) tolerates.refl⟩

/-- A program inside a transaction leaves alone what is known and what is locked. -/
theorem safe_of_leaves_inside {finish : α → Standing τ σ ρ → Prop} {standing : Standing τ σ ρ}
    {program : Program σ ρ α} (refl : ∀ state, kept state state)
    (trans : ∀ {first second third}, kept first second → kept second third →
      kept first third)
    (leaves : program.Leaves kept False)
    (stable : discipline.Stable standing.held standing.know)
    (ends : ∀ value middle, standing.held ⊆ middle.held → middle.know = standing.know →
      (∀ state, kept (standing.pending state) (middle.pending state)) →
      finish value middle) :
    discipline.Safe client finish standing program := by
  induction program generalizing standing with
  | done value =>
      exact ends value standing subset_rfl rfl fun _ => refl _
  | halted =>
      trivial
  | read row next inductionHypothesis =>
      intro state _ knows _
      exact ⟨standing.know, knows, stable, inductionHypothesis _ (leaves _) stable ends⟩
  | lock row next inductionHypothesis =>
      intro state _ knows _
      have more := stable.mono (Set.subset_insert row standing.held)
      refine ⟨standing.know, knows, more, inductionHypothesis leaves more ?_⟩
      intro value middle held
      exact ends value middle ((Set.subset_insert row standing.held).trans held)
  | write change next inductionHypothesis =>
      refine inductionHypothesis leaves.2 stable fun value middle held know pending => ?_
      refine ends value middle held know fun state => ?_
      exact trans (leaves.1 _) (pending state)
  | commit next inductionHypothesis =>
      exact leaves.1.elim
  | rollback next inductionHypothesis =>
      exact leaves.1.elim

/-- What is left to show when the first part of a script ends. -/
def Continues (discipline : Discipline τ σ ρ ι) (client : ι)
    (finish : Except ε β → Standing τ σ ρ → Prop) (next : α → Script σ ρ ε β) :
    Except ε α → Standing τ σ ρ → Prop
  | .ok value, middle => discipline.Safe client finish middle (next value)
  | .error error, middle => finish (.error error) middle

theorem safe_script_bind {finish : Except ε β → Standing τ σ ρ → Prop}
    {standing : Standing τ σ ρ} {first : Script σ ρ ε α} {next : α → Script σ ρ ε β}
    (safe : discipline.Safe client (discipline.Continues client finish next) standing first) :
    discipline.Safe client finish standing (first >>= next : Script σ ρ ε β) := by
  refine safe_bind (safe.mono fun result middle continues => ?_)
  cases result with
  | ok value =>
      exact continues
  | error error =>
      exact continues

theorem safe_select_bind {finish : Except ε β → Standing τ σ ρ → Prop}
    {standing : Standing τ σ ρ} {row : ρ} {view : σ → α} {next : α → Script σ ρ ε β}
    (each : ∀ state, discipline.invariant state → standing.know state →
      discipline.allowed client standing.seen (.look row) (discipline.data state) →
      ∃ learned, learned state ∧ discipline.Stable standing.held learned ∧
        discipline.Safe client finish
          { standing with
            seen := some (discipline.data state)
            know := learned } (next (view (standing.pending (discipline.data state))))) :
    discipline.Safe client finish standing
      (Script.select row view >>= next : Script σ ρ ε β) :=
  fun state invariant knows allowed => each state invariant knows allowed

theorem safe_consult_bind {finish : Except ε β → Standing τ σ ρ → Prop}
    {standing : Standing τ σ ρ} {row : ρ} {checks : σ → Except ε α}
    {next : α → Script σ ρ ε β}
    (each : ∀ state, discipline.invariant state → standing.know state →
      discipline.allowed client standing.seen (.look row) (discipline.data state) →
      ∃ learned, learned state ∧ discipline.Stable standing.held learned ∧
        discipline.Continues client finish next
          (checks (standing.pending (discipline.data state)))
          { standing with
            seen := some (discipline.data state)
            know := learned }) :
    discipline.Safe client finish standing
      (Script.consult row checks >>= next : Script σ ρ ε β) := by
  refine safe_script_bind fun state invariant knows allowed => ?_
  exact each state invariant knows allowed

/-- A read of which nothing is learned, whatever it finds. -/
theorem safe_look_bind {finish : Except ε β → Standing τ σ ρ → Prop}
    {standing : Standing τ σ ρ} {row : ρ} {view : σ → α} {next : α → Script σ ρ ε β}
    (stable : discipline.Stable standing.held standing.know)
    (each : ∀ value seen, discipline.Safe client finish { standing with seen := seen }
      (next value)) :
    discipline.Safe client finish standing
      (Script.select row view >>= next : Script σ ρ ε β) :=
  fun _ _ knows _ => ⟨standing.know, knows, stable, each _ _⟩

theorem safe_require_bind {finish : Except ε β → Standing τ σ ρ → Prop}
    {standing : Standing τ σ ρ} {condition : Prop} [Decidable condition] {error : ε}
    {next : Unit → Script σ ρ ε β}
    (met : condition → discipline.Safe client finish standing (next ()))
    (refused : ¬ condition → finish (.error error) standing) :
    discipline.Safe client finish standing
      (Script.require condition error >>= next : Script σ ρ ε β) := by
  refine safe_script_bind ?_
  by_cases holds : condition
  · simp only [Script.require, if_pos holds]
    exact met holds
  · simp only [Script.require, if_neg holds]
    exact refused holds

/-- The first of several locks, when something is learned from being granted it. -/
theorem safe_lockAll_cons_bind {finish : Except ε β → Standing τ σ ρ → Prop} {row : ρ}
    {rest : List ρ} {next : Unit → Script σ ρ ε β} {standing : Standing τ σ ρ}
    (each : ∀ state, discipline.invariant state → standing.know state →
      discipline.allowed client standing.seen (.lock row) (discipline.data state) →
      ∃ learned, learned state ∧ discipline.Stable (insert row standing.held) learned ∧
        discipline.Safe client finish
          { standing with
            held := insert row standing.held
            know := learned } (Script.lockAll rest >>= next : Script σ ρ ε β)) :
    discipline.Safe client finish standing
      (Script.lockAll (row :: rest) >>= next : Script σ ρ ε β) :=
  fun state invariant knows allowed => each state invariant knows allowed

/-- Locks keep what is known. -/
theorem safe_lockAll_bind {finish : Except ε β → Standing τ σ ρ → Prop} {rows : List ρ}
    {next : Unit → Script σ ρ ε β} {standing : Standing τ σ ρ}
    (stable : discipline.Stable standing.held standing.know)
    (locked : ∀ held, standing.held ⊆ held → (∀ row ∈ rows, row ∈ held) →
      discipline.Safe client finish { standing with held := held } (next ())) :
    discipline.Safe client finish standing
      (Script.lockAll rows >>= next : Script σ ρ ε β) := by
  induction rows generalizing standing with
  | nil =>
      exact locked standing.held subset_rfl (by simp)
  | cons row rest inductionHypothesis =>
      intro state _ knows _
      have more := Set.subset_insert row standing.held
      refine ⟨standing.know, knows, stable.mono more,
        inductionHypothesis (stable.mono more) fun held larger others => ?_⟩
      refine locked held (more.trans larger) fun other member => ?_
      rcases List.mem_cons.mp member with rfl | later
      · exact larger (Set.mem_insert _ _)
      · exact others other later

/-- What is left to show when the body of a transaction ends. -/
def Closes (discipline : Discipline τ σ ρ ι) (client : ι)
    (finish : Except ε α → Standing τ σ ρ → Prop) : Except ε α → Standing τ σ ρ → Prop
  | .ok value, middle =>
      ∀ state, discipline.invariant state → middle.know state →
        discipline.allowed client middle.seen .commit (discipline.data state) →
        ∃ after, discipline.data after = middle.pending (discipline.data state) ∧
          discipline.Keeps middle.held state after ∧
          ∃ learned, learned after ∧ discipline.Stable ∅ learned ∧
            finish (.ok value) ⟨some (discipline.data after), ∅, id, learned⟩
  | .error error, middle =>
      ∃ learned, (∀ state, discipline.invariant state → middle.know state →
          learned state) ∧ discipline.Stable ∅ learned ∧
        finish (.error error) ⟨middle.seen, ∅, id, learned⟩

theorem safe_transaction {finish : Except ε α → Standing τ σ ρ → Prop}
    {standing : Standing τ σ ρ} {body : Script σ ρ ε α}
    (safe : discipline.Safe client (discipline.Closes client finish) standing body) :
    discipline.Safe client finish standing (Script.transaction body) := by
  refine safe_bind (safe.mono fun result middle closes => ?_)
  cases result with
  | ok value =>
      exact closes
  | error error =>
      exact closes

/-! ## Scripts in a row -/

/-- Nothing is pending but what the discipline tolerates. -/
structure Steady (discipline : Discipline τ σ ρ ι) (kept : σ → σ → Prop)
    (standing : Standing τ σ ρ) : Prop where
  stable : discipline.Stable standing.held standing.know
  kept : ∀ state, kept state (standing.pending state)

/-- The script goes from steady standings to steady standings. -/
def Carries (discipline : Discipline τ σ ρ ι) (client : ι) (kept : σ → σ → Prop)
    (script : Script σ ρ ε α) : Prop :=
  ∀ (finish : Except ε α → Standing τ σ ρ → Prop) (standing : Standing τ σ ρ),
    discipline.Steady kept standing →
    (∀ result middle, discipline.Steady kept middle → finish result middle) →
    discipline.Safe client finish standing script

/-- The script does so as the rest of a transaction's body. -/
def CarriesInside (discipline : Discipline τ σ ρ ι) (client : ι) (kept : σ → σ → Prop)
    (script : Script σ ρ ε α) : Prop :=
  ∀ (finish : Except ε α → Standing τ σ ρ → Prop) (standing : Standing τ σ ρ),
    discipline.Steady kept standing →
    (∀ result middle, discipline.Steady kept middle → finish result middle) →
    discipline.Safe client (discipline.Closes client finish) standing script

section Carries

theorem Tolerates.steady (tolerates : discipline.Tolerates kept) (seen : Option σ) :
    discipline.Steady kept (⟨seen, ∅, id, fun _ => True⟩ : Standing τ σ ρ) :=
  ⟨stable_true _, tolerates.refl⟩

/-- Nothing of a failed transaction remains. -/
theorem Tolerates.closes_error (tolerates : discipline.Tolerates kept) (client : ι)
    {finish : Except ε α → Standing τ σ ρ → Prop}
    (ends : ∀ result middle, discipline.Steady kept middle → finish result middle)
    (error : ε) (middle : Standing τ σ ρ) :
    discipline.Closes client finish (.error error) middle :=
  ⟨fun _ => True, fun _ _ _ => trivial, stable_true _,
    ends _ _ (tolerates.steady middle.seen)⟩

/-- A commit after which the client knows nothing. -/
theorem Tolerates.closes_ok (tolerates : discipline.Tolerates kept)
    {finish : Except ε α → Standing τ σ ρ → Prop}
    (ends : ∀ result middle, discipline.Steady kept middle → finish result middle)
    {value : α} {middle : Standing τ σ ρ}
    (keeps : ∀ state, discipline.invariant state → middle.know state →
      discipline.allowed client middle.seen .commit (discipline.data state) →
      ∃ after, discipline.data after = middle.pending (discipline.data state) ∧
        discipline.Keeps middle.held state after) :
    discipline.Closes client finish (.ok value) middle := by
  intro state invariant knows allowed
  obtain ⟨after, written, kept⟩ := keeps state invariant knows allowed
  exact ⟨after, written, kept, fun _ => True, trivial, stable_true _,
    ends _ _ (tolerates.steady _)⟩

theorem Tolerates.closes_steady (tolerates : discipline.Tolerates kept)
    {finish : Except ε α → Standing τ σ ρ → Prop}
    (ends : ∀ result middle, discipline.Steady kept middle → finish result middle)
    (result : Except ε α) (middle : Standing τ σ ρ) (steady : discipline.Steady kept middle) :
    discipline.Closes client finish result middle := by
  cases result with
  | error error =>
      exact tolerates.closes_error client ends error middle
  | ok value =>
      refine tolerates.closes_ok ends fun state invariant _ _ => ?_
      obtain ⟨after, written, keeps⟩ := tolerates.keeps (steady.kept _) invariant
      exact ⟨after, written, keeps.mono (Set.empty_subset _)⟩

theorem Tolerates.carries (tolerates : discipline.Tolerates kept)
    {script : Script σ ρ ε α} (leaves : script.Leaves kept True) :
    discipline.Carries client kept script :=
  fun _ _ steady ends => safe_of_leaves tolerates leaves steady.stable steady.kept
    fun _ _ stable kept => ends _ _ ⟨stable, kept⟩

theorem Tolerates.carriesInside (tolerates : discipline.Tolerates kept)
    {script : Script σ ρ ε α} (leaves : script.Leaves kept True) :
    discipline.CarriesInside client kept script :=
  fun _ standing steady ends =>
    tolerates.carries leaves _ standing steady (tolerates.closes_steady ends)

theorem carries_pure (value : α) :
    discipline.Carries client kept (pure value : Script σ ρ ε α) :=
  fun _ standing steady ends => ends (.ok value) standing steady

theorem carries_fail (error : ε) :
    discipline.Carries client kept (Script.fail error : Script σ ρ ε α) :=
  fun _ standing steady ends => ends (.error error) standing steady

theorem Carries.bind {first : Script σ ρ ε α} {next : α → Script σ ρ ε β}
    (carries : discipline.Carries client kept first)
    (continues : ∀ value, discipline.Carries client kept (next value)) :
    discipline.Carries client kept (first >>= next : Script σ ρ ε β) := by
  intro finish standing steady ends
  refine safe_script_bind (carries _ standing steady fun result middle later => ?_)
  cases result with
  | ok value =>
      exact continues value finish middle later ends
  | error error =>
      exact ends _ _ later

theorem Tolerates.carriesInside_bind (tolerates : discipline.Tolerates kept)
    {first : Script σ ρ ε α} {next : α → Script σ ρ ε β}
    (carries : discipline.Carries client kept first)
    (continues : ∀ value, discipline.CarriesInside client kept (next value)) :
    discipline.CarriesInside client kept (first >>= next : Script σ ρ ε β) := by
  intro finish standing steady ends
  refine safe_script_bind (carries _ standing steady fun result middle later => ?_)
  cases result with
  | ok value =>
      exact continues value finish middle later ends
  | error error =>
      exact tolerates.closes_error client ends error middle

theorem CarriesInside.transaction {body : Script σ ρ ε α}
    (carries : discipline.CarriesInside client kept body) :
    discipline.Carries client kept (Script.transaction body) :=
  fun finish standing steady ends => safe_transaction (carries finish standing steady ends)

end Carries

end Discipline

end Leaves

end Tchuno.Library
