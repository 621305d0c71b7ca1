import Mathlib.Data.Set.Insert
import Mathlib.Logic.Function.Basic
import Tchuno.Library.Machine

/-!
# Clients of a database under READ COMMITTED

Every client runs a program of statements.  A read sees what was committed
before it, with the client's own writes on top; a write stays with the client
until it commits; a lock on a row keeps all other clients from locking it until
the holder commits or rolls back.  Between any two statements the other clients
may run, and a client may fail, which drops what it has not committed.

A discipline says which invariant the committed data has, which part of the data
a lock protects and how the data may change otherwise.  It may do so with auxiliary
variables, which no program reads and which are chosen at each commit.  A program is
safe if each of its commits keeps the discipline, where it may rely on the others
keeping it.  The main theorem puts safe programs together, however many there are and
however their statements interleave.
-/

namespace Tchuno.Library

/-! ## Programs -/

/-- The statements a client still has to send.  A read says which row or range it is
about, though it may use all of the data. -/
inductive Program (σ ρ α : Type) where
  | done (value : α)
  | halted
  | read (row : ρ) (next : σ → Program σ ρ α)
  | lock (row : ρ) (next : Program σ ρ α)
  | write (change : σ → σ) (next : Program σ ρ α)
  | commit (next : Program σ ρ α)
  | rollback (next : Program σ ρ α)

namespace Program

variable {σ ρ α β : Type}

/-- Continue with the value of the first program. -/
def bind (program : Program σ ρ α) (continuation : α → Program σ ρ β) : Program σ ρ β :=
  match program with
  | done value => continuation value
  | halted => halted
  | read row next => read row fun state => (next state).bind continuation
  | lock row next => lock row (next.bind continuation)
  | write change next => write change (next.bind continuation)
  | commit next => commit (next.bind continuation)
  | rollback next => rollback (next.bind continuation)

theorem bind_assoc {γ : Type} (program : Program σ ρ α) (first : α → Program σ ρ β)
    (second : β → Program σ ρ γ) :
    (program.bind first).bind second = program.bind fun value => (first value).bind second := by
  induction program with
  | done value =>
      rfl
  | halted =>
      rfl
  | read row next inductionHypothesis =>
      exact congrArg (read row) (funext inductionHypothesis)
  | lock row next inductionHypothesis =>
      exact congrArg (lock row) inductionHypothesis
  | write change next inductionHypothesis =>
      exact congrArg (write change) inductionHypothesis
  | commit next inductionHypothesis =>
      exact congrArg commit inductionHypothesis
  | rollback next inductionHypothesis =>
      exact congrArg rollback inductionHypothesis

/-- The value the program returns if no other client runs, what it has committed then
and what it has written. -/
def alone : Program σ ρ α → σ → σ → Option α × σ × σ
  | done value, committed, current => (some value, committed, current)
  | halted, committed, current => (none, committed, current)
  | read _ next, committed, current => (next current).alone committed current
  | lock _ next, committed, current => next.alone committed current
  | write change next, committed, current => next.alone committed (change current)
  | commit next, _, current => next.alone current current
  | rollback next, committed, _ => next.alone committed committed

end Program

/-- The kinds of statements. -/
inductive Statement (ρ : Type) where
  | look (row : ρ)
  | lock (row : ρ)
  | write
  | commit
  | rollback
  deriving DecidableEq

/-- The statement the client sends next. -/
def Program.statement? {σ ρ α : Type} : Program σ ρ α → Option (Statement ρ)
  | .done _ => none
  | .halted => none
  | .read row _ => some (.look row)
  | .lock row _ => some (.lock row)
  | .write _ _ => some .write
  | .commit _ => some .commit
  | .rollback _ => some .rollback

/-! ## Clusters -/

/-- A client: its program, the writes it has not committed, and what was committed
when it last looked. -/
structure Session (σ ρ α : Type) where
  program : Program σ ρ α
  pending : σ → σ
  seen : Option σ

/-- The committed data, the holders of the locks and the clients. -/
structure Cluster (σ ρ ι α : Type) where
  data : σ
  holder : ρ → Option ι
  session : ι → Session σ ρ α

/-- A client sends its next statement, or fails. -/
inductive Turn where
  | advance | fail
  deriving DecidableEq, Repr

namespace Cluster

variable {σ ρ ι α : Type}

/-- All clients at their beginning. -/
def start (data : σ) (programs : ι → Program σ ρ α) : Cluster σ ρ ι α where
  data := data
  holder := fun _ => none
  session := fun client => ⟨programs client, id, none⟩

variable [DecidableEq ρ] [DecidableEq ι]

/-- Free the locks of a client. -/
def released (cluster : Cluster σ ρ ι α) (client : ι) : ρ → Option ι :=
  fun row => if cluster.holder row = some client then none else cluster.holder row

/-- Put a client into a new session. -/
def resume (cluster : Cluster σ ρ ι α) (client : ι) (session : Session σ ρ α) :
    Cluster σ ρ ι α :=
  { cluster with session := Function.update cluster.session client session }

/-- The client sends its next statement; a lock held by another client blocks it. -/
def advance (cluster : Cluster σ ρ ι α) (client : ι) : Cluster σ ρ ι α :=
  let session := cluster.session client
  match session.program with
  | .done _ => cluster
  | .halted => cluster
  | .read _ next =>
      cluster.resume client
        { session with
          program := next (session.pending cluster.data)
          seen := some cluster.data }
  | .lock row next =>
      if cluster.holder row = none ∨ cluster.holder row = some client then
        { cluster with holder := Function.update cluster.holder row (some client) }.resume
          client { session with program := next }
      else
        cluster
  | .write change next =>
      cluster.resume client
        { session with
          program := next
          pending := change ∘ session.pending }
  | .commit next =>
      { cluster with
        data := session.pending cluster.data
        holder := cluster.released client }.resume client
          ⟨next, id, some (session.pending cluster.data)⟩
  | .rollback next =>
      { cluster with holder := cluster.released client }.resume client
        { session with
          program := next
          pending := id }

/-- The client is gone; its locks are freed and its pending writes dropped. -/
def fail (cluster : Cluster σ ρ ι α) (client : ι) : Cluster σ ρ ι α :=
  { cluster with holder := cluster.released client }.resume client
    { cluster.session client with
      program := .halted
      pending := id }

/-- One turn of one client. -/
def turn (cluster : Cluster σ ρ ι α) : ι × Turn → Cluster σ ρ ι α
  | (client, .advance) => cluster.advance client
  | (client, .fail) => cluster.fail client

end Cluster

/-- The clients as a machine; a schedule says whose turn it is. -/
def readCommitted (σ ρ ι α : Type) [DecidableEq ρ] [DecidableEq ι] :
    Machine (Cluster σ ρ ι α) (ι × Turn) where
  step := Cluster.turn

/-! ## Disciplines -/

/-- What all clients keep to, on states `τ` with data `σ`. -/
structure Discipline (τ σ ρ ι : Type) where
  /-- the data of a state, without its auxiliary variables -/
  data : τ → σ
  /-- what holds of the committed state -/
  invariant : τ → Prop
  /-- the part of the state which the lock on a row protects is the same -/
  same : ρ → τ → τ → Prop
  /-- how the state may change otherwise -/
  grows : τ → τ → Prop
  /-- when a client may send a statement, given what it has seen last -/
  allowed : ι → Option σ → Statement ρ → σ → Prop

/-- What a client can rely on in the middle of its program. -/
structure Standing (τ σ ρ : Type) where
  seen : Option σ
  held : Set ρ
  pending : σ → σ
  know : τ → Prop

/-- A client which has not read, locked or written anything. -/
def Standing.initial (τ σ ρ : Type) : Standing τ σ ρ where
  seen := none
  held := ∅
  pending := id
  know := fun _ => True

namespace Discipline

variable {τ σ ρ ι α β : Type} (discipline : Discipline τ σ ρ ι) (client : ι)

/-- What is known survives the commits of the other clients. -/
def Stable (held : Set ρ) (know : τ → Prop) : Prop :=
  ∀ before after, discipline.invariant after →
    (∀ row ∈ held, discipline.same row before after) → discipline.grows before after →
    know before → know after

/-- A commit keeps the discipline. -/
structure Keeps (held : Set ρ) (before after : τ) : Prop where
  invariant : discipline.invariant after
  grows : discipline.grows before after
  same : ∀ row ∉ held, discipline.same row before after

variable {discipline} in
theorem Keeps.mono {held more : Set ρ} {before after : τ}
    (keeps : discipline.Keeps held before after) (more_held : held ⊆ more) :
    discipline.Keeps more before after :=
  ⟨keeps.invariant, keeps.grows, fun row absent =>
    keeps.same row fun member => absent (more_held member)⟩

/-- Every commit of the program keeps the discipline, whatever the others do. -/
def Safe (finish : α → Standing τ σ ρ → Prop) :
    Standing τ σ ρ → Program σ ρ α → Prop
  | standing, .done value => finish value standing
  | _, .halted => True
  | standing, .read row next =>
      ∀ state, discipline.invariant state → standing.know state →
        discipline.allowed client standing.seen (.look row) (discipline.data state) →
        ∃ learned, learned state ∧ discipline.Stable standing.held learned ∧
          Safe finish
            { standing with
              seen := some (discipline.data state)
              know := learned } (next (standing.pending (discipline.data state)))
  | standing, .lock row next =>
      ∀ state, discipline.invariant state → standing.know state →
        discipline.allowed client standing.seen (.lock row) (discipline.data state) →
        ∃ learned, learned state ∧ discipline.Stable (insert row standing.held) learned ∧
          Safe finish
            { standing with
              held := insert row standing.held
              know := learned } next
  | standing, .write change next =>
      Safe finish { standing with pending := change ∘ standing.pending } next
  | standing, .commit next =>
      ∀ state, discipline.invariant state → standing.know state →
        discipline.allowed client standing.seen .commit (discipline.data state) →
        ∃ after, discipline.data after = standing.pending (discipline.data state) ∧
          discipline.Keeps standing.held state after ∧
          ∃ learned, learned after ∧ discipline.Stable ∅ learned ∧
            Safe finish ⟨some (discipline.data after), ∅, id, learned⟩ next
  | standing, .rollback next =>
      ∃ learned, (∀ state, discipline.invariant state → standing.know state →
          learned state) ∧ discipline.Stable ∅ learned ∧
        Safe finish ⟨standing.seen, ∅, id, learned⟩ next

variable {discipline client}

theorem Stable.mono {held more : Set ρ} {know : τ → Prop}
    (stable : discipline.Stable held know) (more_held : held ⊆ more) :
    discipline.Stable more know :=
  fun before after invariant same grows =>
    stable before after invariant (fun row member => same row (more_held member)) grows

theorem stable_true (held : Set ρ) : discipline.Stable held fun _ => True :=
  fun _ _ _ _ _ _ => trivial

theorem Stable.and {held : Set ρ} {first second : τ → Prop}
    (stableFirst : discipline.Stable held first) (stableSecond : discipline.Stable held second) :
    discipline.Stable held fun state => first state ∧ second state :=
  fun before after invariant same grows knows =>
    ⟨stableFirst before after invariant same grows knows.1,
      stableSecond before after invariant same grows knows.2⟩

theorem Safe.mono {finish other : α → Standing τ σ ρ → Prop} {program : Program σ ρ α}
    {standing : Standing τ σ ρ} (safe : discipline.Safe client finish standing program)
    (implies : ∀ value middle, finish value middle → other value middle) :
    discipline.Safe client other standing program := by
  induction program generalizing standing with
  | done value =>
      exact implies value standing safe
  | halted =>
      trivial
  | read row next inductionHypothesis =>
      intro state invariant knows allowed
      obtain ⟨learned, holds, stable, later⟩ := safe state invariant knows allowed
      exact ⟨learned, holds, stable, inductionHypothesis _ later⟩
  | lock row next inductionHypothesis =>
      intro state invariant knows allowed
      obtain ⟨learned, holds, stable, later⟩ := safe state invariant knows allowed
      exact ⟨learned, holds, stable, inductionHypothesis later⟩
  | write change next inductionHypothesis =>
      exact inductionHypothesis safe
  | commit next inductionHypothesis =>
      intro state invariant knows allowed
      obtain ⟨after, written, keeps, learned, holds, stable, later⟩ :=
        safe state invariant knows allowed
      exact ⟨after, written, keeps, learned, holds, stable, inductionHypothesis later⟩
  | rollback next inductionHypothesis =>
      obtain ⟨learned, weakened, stable, later⟩ := safe
      exact ⟨learned, weakened, stable, inductionHypothesis later⟩

/-- A program with a continuation is safe if it is safe up to where the continuation
takes over. -/
theorem safe_bind {finish : β → Standing τ σ ρ → Prop} {program : Program σ ρ α}
    {continuation : α → Program σ ρ β} {standing : Standing τ σ ρ}
    (safe : discipline.Safe client
      (fun value middle => discipline.Safe client finish middle (continuation value))
      standing program) :
    discipline.Safe client finish standing (program.bind continuation) := by
  induction program generalizing standing with
  | done value =>
      exact safe
  | halted =>
      trivial
  | read row next inductionHypothesis =>
      intro state invariant knows allowed
      obtain ⟨learned, holds, stable, later⟩ := safe state invariant knows allowed
      exact ⟨learned, holds, stable, inductionHypothesis _ later⟩
  | lock row next inductionHypothesis =>
      intro state invariant knows allowed
      obtain ⟨learned, holds, stable, later⟩ := safe state invariant knows allowed
      exact ⟨learned, holds, stable, inductionHypothesis later⟩
  | write change next inductionHypothesis =>
      exact inductionHypothesis safe
  | commit next inductionHypothesis =>
      intro state invariant knows allowed
      obtain ⟨after, written, keeps, learned, holds, stable, later⟩ :=
        safe state invariant knows allowed
      exact ⟨after, written, keeps, learned, holds, stable, inductionHypothesis later⟩
  | rollback next inductionHypothesis =>
      obtain ⟨learned, weakened, stable, later⟩ := safe
      exact ⟨learned, weakened, stable, inductionHypothesis later⟩

end Discipline

/-! ## Safe clients together -/

section Together

variable {τ σ ρ ι α : Type} {discipline : Discipline τ σ ρ ι}
  {post : ι → α → Option σ → τ → Prop}

/-- When its program is done, what the client knows and has seen last implies the
postcondition. -/
def Discipline.Ends (discipline : Discipline τ σ ρ ι) (post : ι → α → Option σ → τ → Prop)
    (client : ι) (value : α) (standing : Standing τ σ ρ) : Prop :=
  ∀ state, discipline.invariant state → standing.know state →
    post client value standing.seen state

/-- The standing describes where the client is. -/
structure Cluster.Stands (cluster : Cluster σ ρ ι α) (discipline : Discipline τ σ ρ ι)
    (post : ι → α → Option σ → τ → Prop) (state : τ) (client : ι)
    (standing : Standing τ σ ρ) : Prop where
  seen : standing.seen = (cluster.session client).seen
  held : ∀ row ∈ standing.held, cluster.holder row = some client
  pending : standing.pending = (cluster.session client).pending
  stable : discipline.Stable standing.held standing.know
  knows : standing.know state
  safe : discipline.Safe client (discipline.Ends post client) standing
    (cluster.session client).program

/-- The data is that of a state with the invariant, in which every client stands
somewhere safe. -/
structure Cluster.Lawful (cluster : Cluster σ ρ ι α) (discipline : Discipline τ σ ρ ι)
    (post : ι → α → Option σ → τ → Prop) (state : τ) : Prop where
  data : discipline.data state = cluster.data
  invariant : discipline.invariant state
  stands : ∀ client, ∃ standing, cluster.Stands discipline post state client standing

namespace Cluster

theorem start_lawful {state : τ} (invariant : discipline.invariant state)
    {programs : ι → Program σ ρ α}
    (safe : ∀ client, discipline.Safe client (discipline.Ends post client)
      (Standing.initial τ σ ρ) (programs client)) :
    (start (discipline.data state) programs).Lawful discipline post state where
  data := rfl
  invariant := invariant
  stands := fun client =>
    ⟨Standing.initial τ σ ρ,
      { seen := rfl
        held := fun _ member => member.elim
        pending := rfl
        stable := Discipline.stable_true _
        knows := trivial
        safe := safe client }⟩

variable {state : τ}

/-- A client whose program is done has established its postcondition. -/
theorem Lawful.post_of_done {cluster : Cluster σ ρ ι α}
    (lawful : cluster.Lawful discipline post state) {client : ι} {value : α}
    (finished : (cluster.session client).program = .done value) :
    post client value (cluster.session client).seen state := by
  obtain ⟨standing, stands⟩ := lawful.stands client
  have ends := stands.safe
  rw [finished] at ends
  rw [← stands.seen]
  exact ends state lawful.invariant stands.knows

/-- Another client stands where it stood if its session is the same, it keeps its
locks and the state has changed as the discipline says. -/
theorem Stands.of_others {cluster next : Cluster σ ρ ι α} {after : τ} {client : ι}
    {standing : Standing τ σ ρ}
    (stands : cluster.Stands discipline post state client standing)
    (sameSession : next.session client = cluster.session client)
    (keepsLocks : ∀ row, cluster.holder row = some client → next.holder row = some client)
    (knows : standing.know after) :
    next.Stands discipline post after client standing where
  seen := by rw [sameSession, stands.seen]
  held := fun row member => keepsLocks row (stands.held row member)
  pending := by rw [sameSession, stands.pending]
  stable := stands.stable
  knows := knows
  safe := by rw [sameSession]; exact stands.safe

variable [DecidableEq ι]

theorem released_of_ne {cluster : Cluster σ ρ ι α} {client other : ι}
    (different : other ≠ client) {row : ρ} (holds : cluster.holder row = some other) :
    cluster.released client row = some other := by
  rw [released, holds, if_neg fun same => different (Option.some.inj same)]

theorem session_resume_of_ne {cluster : Cluster σ ρ ι α} {client other : ι}
    (different : other ≠ client) (session : Session σ ρ α) :
    (cluster.resume client session).session other = cluster.session other :=
  Function.update_of_ne different _ _

theorem session_resume (cluster : Cluster σ ρ ι α) (client : ι) (session : Session σ ρ α) :
    (cluster.resume client session).session client = session :=
  Function.update_self ..

/-- A turn after which the client is in another session, in the same state. -/
theorem Lawful.resume {cluster : Cluster σ ρ ι α}
    (lawful : cluster.Lawful discipline post state)
    {client : ι} {holder : ρ → Option ι} {session : Session σ ρ α}
    (standing : Standing τ σ ρ)
    (keepsLocks : ∀ other, other ≠ client → ∀ row, cluster.holder row = some other →
      holder row = some other)
    (seen : standing.seen = session.seen)
    (held : ∀ row ∈ standing.held, holder row = some client)
    (pending : standing.pending = session.pending)
    (stable : discipline.Stable standing.held standing.know)
    (knows : standing.know state)
    (safe : discipline.Safe client (discipline.Ends post client) standing session.program) :
    ({ cluster with holder := holder }.resume client session).Lawful discipline post
      state where
  data := lawful.data
  invariant := lawful.invariant
  stands := by
    intro other
    by_cases same : other = client
    · subst same
      have resumed := session_resume { cluster with holder := holder } other session
      exact ⟨standing,
        { seen := by rw [resumed, seen]
          held := held
          pending := by rw [resumed, pending]
          stable := stable
          knows := knows
          safe := by rw [resumed]; exact safe }⟩
    · obtain ⟨position, before⟩ := lawful.stands other
      exact ⟨position, before.of_others (session_resume_of_ne same _)
        (keepsLocks other same) before.knows⟩

theorem fail_lawful {cluster : Cluster σ ρ ι α}
    (lawful : cluster.Lawful discipline post state) (client : ι) :
    (cluster.fail client).Lawful discipline post state :=
  lawful.resume ⟨(cluster.session client).seen, ∅, id, fun _ => True⟩
    (fun _ different _ holds => released_of_ne different holds) rfl
    (fun _ member => member.elim) rfl (Discipline.stable_true _) trivial trivial

/-- A commit which keeps the discipline, with the standing it leads to. -/
theorem Lawful.commit {cluster : Cluster σ ρ ι α}
    (lawful : cluster.Lawful discipline post state) {client : ι} {standing : Standing τ σ ρ}
    (stands : cluster.Stands discipline post state client standing) {after : τ}
    (keeps : discipline.Keeps standing.held state after)
    {next : Program σ ρ α} {learned : τ → Prop} (knows : learned after)
    (stable : discipline.Stable ∅ learned)
    (safe : discipline.Safe client (discipline.Ends post client)
      ⟨some (discipline.data after), ∅, id, learned⟩ next) :
    ({ cluster with
        data := discipline.data after
        holder := cluster.released client }.resume client
          ⟨next, id, some (discipline.data after)⟩).Lawful discipline post after where
  data := rfl
  invariant := keeps.invariant
  stands := by
    intro other
    by_cases same : other = client
    · subst same
      have resumed := session_resume
        { cluster with
          data := discipline.data after
          holder := cluster.released other } other ⟨next, id, some (discipline.data after)⟩
      exact ⟨⟨some (discipline.data after), ∅, id, learned⟩,
        { seen := by rw [resumed]
          held := fun _ member => member.elim
          pending := by rw [resumed]
          stable := stable
          knows := knows
          safe := by rw [resumed]; exact safe }⟩
    · obtain ⟨position, before⟩ := lawful.stands other
      refine ⟨position, before.of_others (session_resume_of_ne same _)
        (fun row holds => released_of_ne same holds) ?_⟩
      -- the rows the other client holds are not among those of this one
      refine before.stable state after keeps.invariant (fun row holds => ?_) keeps.grows
        before.knows
      refine keeps.same row fun both => same ?_
      exact Option.some.inj ((before.held row holds).symm.trans (stands.held row both))

variable [DecidableEq ρ]

theorem advance_lawful {cluster : Cluster σ ρ ι α}
    (lawful : cluster.Lawful discipline post state) (client : ι)
    (allowed : ∀ statement, (cluster.session client).program.statement? = some statement →
      discipline.allowed client (cluster.session client).seen statement cluster.data) :
    ∃ after, (cluster.advance client).Lawful discipline post after ∧
      (after = state ∨ discipline.grows state after) := by
  obtain ⟨standing, stands⟩ := lawful.stands client
  have keepsLocks : ∀ other, other ≠ client → ∀ row, cluster.holder row = some other →
      cluster.holder row = some other := fun _ _ _ holds => holds
  have released : ∀ other, other ≠ client → ∀ row, cluster.holder row = some other →
      cluster.released client row = some other :=
    fun other different row holds => released_of_ne different holds
  have safe := stands.safe
  rw [← stands.seen, ← lawful.data] at allowed
  cases program : (cluster.session client).program with
  | done value =>
      exact ⟨state, by simpa only [advance, program] using lawful, .inl rfl⟩
  | halted =>
      exact ⟨state, by simpa only [advance, program] using lawful, .inl rfl⟩
  | read row next =>
      rw [program] at safe allowed
      obtain ⟨learned, holds, stable, later⟩ :=
        safe state lawful.invariant stands.knows (allowed _ rfl)
      rw [stands.pending, lawful.data] at later
      simp only [advance, program]
      exact ⟨state, lawful.resume
        ⟨some cluster.data, standing.held, (cluster.session client).pending, learned⟩
        keepsLocks rfl stands.held rfl stable holds later, .inl rfl⟩
  | lock row next =>
      rw [program] at safe allowed
      obtain ⟨learned, knows, stable, later⟩ :=
        safe state lawful.invariant stands.knows (allowed _ rfl)
      simp only [advance, program]
      refine ⟨state, ?_, .inl rfl⟩
      split_ifs with free
      · refine lawful.resume
          { standing with
            held := insert row standing.held
            know := learned }
          (fun other different other_row holds => ?_) stands.seen (fun held_row member => ?_)
          stands.pending stable knows later
        · have apart : other_row ≠ row := by
            rintro rfl
            rcases free with none | mine
            · rw [none] at holds
              cases holds
            · exact different (Option.some.inj (holds.symm.trans mine))
          rw [Function.update_of_ne apart, holds]
        · by_cases same : held_row = row
          · rw [same, Function.update_self]
          · rw [Function.update_of_ne same]
            exact stands.held held_row (member.resolve_left same)
      · exact lawful
  | write change next =>
      rw [program] at safe
      simp only [advance, program]
      refine ⟨state, lawful.resume { standing with pending := change ∘ standing.pending }
        keepsLocks stands.seen stands.held ?_ stands.stable stands.knows safe, .inl rfl⟩
      rw [stands.pending]
  | commit next =>
      rw [program] at safe allowed
      obtain ⟨after, written, keeps, learned, holds, stable, later⟩ :=
        safe state lawful.invariant stands.knows (allowed _ rfl)
      rw [stands.pending, lawful.data] at written
      simp only [advance, program, ← written]
      exact ⟨after, lawful.commit stands keeps holds stable later, .inr keeps.grows⟩
  | rollback next =>
      rw [program] at safe
      obtain ⟨learned, weakened, stable, later⟩ := safe
      simp only [advance, program]
      exact ⟨state, lawful.resume ⟨standing.seen, ∅, id, learned⟩ released stands.seen
        (fun _ member => member.elim) rfl stable
        (weakened state lawful.invariant stands.knows) later, .inl rfl⟩

end Cluster

/-- The client whose turn it is sends only what is allowed. -/
def Cluster.Obeys (allowed : ι → Option σ → Statement ρ → σ → Prop)
    (cluster : Cluster σ ρ ι α) : ι × Turn → Prop
  | (client, .advance) =>
      ∀ statement, (cluster.session client).program.statement? = some statement →
        allowed client (cluster.session client).seen statement cluster.data
  | (_, .fail) => True

instance Cluster.decidableObeys (allowed : ι → Option σ → Statement ρ → σ → Prop)
    [∀ client seen statement state, Decidable (allowed client seen statement state)]
    (cluster : Cluster σ ρ ι α) (turn : ι × Turn) : Decidable (cluster.Obeys allowed turn) :=
  match turn with
  | (client, .advance) =>
      match next : (cluster.session client).program.statement? with
      | none => isTrue fun _ sent => nomatch next.symm.trans sent
      | some statement =>
          decidable_of_iff (allowed client (cluster.session client).seen statement
            cluster.data) ⟨fun met _ sent => Option.some.inj (next.symm.trans sent) ▸ met,
              fun obeys => obeys statement next⟩
  | (_, .fail) => isTrue trivial

variable [DecidableEq ρ] [DecidableEq ι]

theorem Cluster.turn_lawful {cluster : Cluster σ ρ ι α} {state : τ}
    (lawful : cluster.Lawful discipline post state) (turn : ι × Turn)
    (allowed : cluster.Obeys discipline.allowed turn) :
    ∃ after, (cluster.turn turn).Lawful discipline post after ∧
      (after = state ∨ discipline.grows state after) := by
  obtain ⟨client, advance | fail⟩ := turn
  · exact advance_lawful lawful client allowed
  · exact ⟨state, fail_lawful lawful client, .inl rfl⟩

/-- From a lawful state on, what the growth of the discipline keeps is kept. -/
theorem Cluster.run_lawful (kept : τ → Prop)
    (closed : ∀ {before after}, discipline.grows before after → kept before → kept after)
    {cluster : Cluster σ ρ ι α} {state : τ} (lawful : cluster.Lawful discipline post state)
    (holds : kept state) {schedule : List (ι × Turn)}
    (allowed : (readCommitted σ ρ ι α).Along (Cluster.Obeys discipline.allowed) cluster
      schedule) :
    ∃ after, ((readCommitted σ ρ ι α).run cluster schedule).Lawful discipline post after ∧
      kept after := by
  refine @Machine.run_invariant _ _ (readCommitted σ ρ ι α)
    (fun cluster => ∃ after, cluster.Lawful discipline post after ∧ kept after)
    (Cluster.Obeys discipline.allowed) ?_ _ ⟨state, lawful, holds⟩ _ allowed
  rintro cluster turn ⟨before, lawfulBefore, holdsBefore⟩ obeys
  obtain ⟨after, lawfulAfter, same | grows⟩ := Cluster.turn_lawful lawfulBefore turn obeys
  · exact ⟨after, lawfulAfter, same ▸ holdsBefore⟩
  · exact ⟨after, lawfulAfter, closed grows holdsBefore⟩

/-- Safe clients keep the discipline together, in every order of their statements in
which each turn is allowed. -/
theorem Discipline.run_lawful {state : τ} (invariant : discipline.invariant state)
    {programs : ι → Program σ ρ α}
    (safe : ∀ client, discipline.Safe client (discipline.Ends post client)
      (Standing.initial τ σ ρ) (programs client))
    {schedule : List (ι × Turn)}
    (allowed : (readCommitted σ ρ ι α).Along (Cluster.Obeys discipline.allowed)
      (Cluster.start (discipline.data state) programs) schedule) :
    ∃ after, ((readCommitted σ ρ ι α).run
      (Cluster.start (discipline.data state) programs) schedule).Lawful discipline post
        after := by
  have started : (Cluster.start (discipline.data state) programs).Lawful discipline post state :=
    Cluster.start_lawful invariant safe
  obtain ⟨after, lawful, _⟩ := Cluster.run_lawful (fun _ => True) (fun _ _ => trivial) started
    trivial allowed
  exact ⟨after, lawful⟩

/-- If the discipline allows everything, every run keeps it. -/
theorem Discipline.run_lawful_of_allowed
    (free : ∀ client seen statement data, discipline.allowed client seen statement data)
    {state : τ} (invariant : discipline.invariant state) {programs : ι → Program σ ρ α}
    (safe : ∀ client, discipline.Safe client (discipline.Ends post client)
      (Standing.initial τ σ ρ) (programs client))
    (schedule : List (ι × Turn)) :
    ∃ after, ((readCommitted σ ρ ι α).run
      (Cluster.start (discipline.data state) programs) schedule).Lawful discipline post
        after := by
  refine discipline.run_lawful invariant safe (Machine.along_of_forall fun cluster turn => ?_)
  obtain ⟨client, advance | fail⟩ := turn
  · exact fun statement _ => free client _ statement _
  · trivial

end Together

end Tchuno.Library
