import Mathlib.Data.List.Nodup
import Tchuno.Library.Script

/-!
# Entries which clients add once

A history is a list in the data to which a client may only add, and the program of a
client adds at most one entry to it.  If every entry carries the name of the client it is
from and no name was used before, no two entries carry one name, in every run.
-/

namespace Tchuno.Library

variable {σ ρ ι α β ε κ δ : Type}

/-! ## Programs which add an entry -/

/-- The history is the same. -/
def SameHistory (history : σ → List κ) (before after : σ) : Prop :=
  history after = history before

/-- The history has one more entry, with this key. -/
def AddsEntry (history : σ → List κ) (key : κ → δ) (name : δ) (before after : σ) : Prop :=
  ∃ entry, key entry = name ∧ history after = entry :: history before

/-- One write of the program may add an entry; no other changes the history. -/
def Program.Adds (history : σ → List κ) (key : κ → δ) (name : δ) : Program σ ρ α → Prop
  | .done _ => True
  | .halted => True
  | .read _ next => ∀ state, (next state).Adds history key name
  | .lock _ next => next.Adds history key name
  | .write change next =>
      (∀ state, SameHistory history state (change state)) ∧ next.Adds history key name ∨
        (∀ state, AddsEntry history key name state (change state)) ∧
          next.Leaves (SameHistory history) True
  | .commit next => next.Adds history key name
  | .rollback next => next.Adds history key name

variable {history : σ → List κ} {key : κ → δ} {name : δ}

theorem Program.Leaves.adds {program : Program σ ρ α}
    (leaves : program.Leaves (SameHistory history) True) : program.Adds history key name := by
  induction program with
  | done value =>
      trivial
  | halted =>
      trivial
  | read row next inductionHypothesis =>
      exact fun state => inductionHypothesis state (leaves state)
  | lock row next inductionHypothesis =>
      exact inductionHypothesis leaves
  | write change next inductionHypothesis =>
      exact .inl ⟨leaves.1, inductionHypothesis leaves.2⟩
  | commit next inductionHypothesis =>
      exact inductionHypothesis leaves.2
  | rollback next inductionHypothesis =>
      exact inductionHypothesis leaves.2

theorem Program.Adds.bind {program : Program σ ρ α} {continuation : α → Program σ ρ β}
    (adds : program.Adds history key name)
    (leaves : ∀ value, (continuation value).Leaves (SameHistory history) True) :
    (program.bind continuation).Adds history key name := by
  induction program with
  | done value =>
      exact (leaves value).adds
  | halted =>
      trivial
  | read row next inductionHypothesis =>
      exact fun state => inductionHypothesis state (adds state)
  | lock row next inductionHypothesis =>
      exact inductionHypothesis adds
  | write change next inductionHypothesis =>
      rcases adds with ⟨same, later⟩ | ⟨added, later⟩
      · exact .inl ⟨same, inductionHypothesis later⟩
      · exact .inr ⟨added, later.bind leaves⟩
  | commit next inductionHypothesis =>
      exact inductionHypothesis adds
  | rollback next inductionHypothesis =>
      exact inductionHypothesis adds

theorem Program.Adds.of_leaves_bind {program : Program σ ρ α}
    {continuation : α → Program σ ρ β}
    (leaves : program.Leaves (SameHistory history) True)
    (adds : ∀ value, (continuation value).Adds history key name) :
    (program.bind continuation).Adds history key name := by
  induction program with
  | done value =>
      exact adds value
  | halted =>
      trivial
  | read row next inductionHypothesis =>
      exact fun state => inductionHypothesis state (leaves state)
  | lock row next inductionHypothesis =>
      exact inductionHypothesis leaves
  | write change next inductionHypothesis =>
      exact .inl ⟨leaves.1, inductionHypothesis leaves.2⟩
  | commit next inductionHypothesis =>
      exact inductionHypothesis leaves.2
  | rollback next inductionHypothesis =>
      exact inductionHypothesis leaves.2

namespace Script

/-- One write of the script may add an entry. -/
def Adds (history : σ → List κ) (key : κ → δ) (name : δ) (script : Script σ ρ ε α) : Prop :=
  Program.Adds history key name script

theorem Leaves.adds {script : Script σ ρ ε α}
    (leaves : script.Leaves (SameHistory history) True) : script.Adds history key name :=
  Program.Leaves.adds leaves

/-- The first part adds the entry. -/
theorem Adds.bind {first : Script σ ρ ε α} {next : α → Script σ ρ ε β}
    (adds : first.Adds history key name)
    (leaves : ∀ value, (next value).Leaves (SameHistory history) True) :
    (first >>= next : Script σ ρ ε β).Adds history key name := by
  refine Program.Adds.bind adds fun result => ?_
  cases result with
  | ok value =>
      exact leaves value
  | error error =>
      trivial

/-- The second part adds the entry. -/
theorem Leaves.bind_adds {first : Script σ ρ ε α} {next : α → Script σ ρ ε β}
    (leaves : first.Leaves (SameHistory history) True)
    (adds : ∀ value, (next value).Adds history key name) :
    (first >>= next : Script σ ρ ε β).Adds history key name := by
  refine Program.Adds.of_leaves_bind leaves fun result => ?_
  cases result with
  | ok value =>
      exact adds value
  | error error =>
      trivial

theorem Adds.transaction {body : Script σ ρ ε α} (adds : body.Adds history key name) :
    (Script.transaction body).Adds history key name := by
  refine Program.Adds.bind adds fun result => ?_
  cases result <;> exact ⟨trivial, trivial⟩

theorem adds_write {change : σ → σ}
    (added : ∀ state, AddsEntry history key name state (change state)) :
    (write change : Script σ ρ ε Unit).Adds history key name :=
  .inr ⟨added, trivial⟩

end Script

/-! ## Clusters of such programs -/

/-- What a client may still do to the history. -/
inductive Session.Adds (session : Session σ ρ α) (history : σ → List κ) (key : κ → δ)
    (name : δ) (used : Prop) : Prop where
  /-- the entry has not been written -/
  | before (unused : ¬ used)
      (same : ∀ state, SameHistory history state (session.pending state))
      (adds : session.program.Adds history key name)
  /-- the entry has been written, but not committed -/
  | pending (unused : ¬ used)
      (added : ∀ state, AddsEntry history key name state (session.pending state))
      (leaves : session.program.Leaves (SameHistory history) True)
  | after (same : ∀ state, SameHistory history state (session.pending state))
      (leaves : session.program.Leaves (SameHistory history) True)

/-- No two entries have one key, and a client which may still add one has an unused
name. -/
structure Cluster.Adding (cluster : Cluster σ ρ ι α) (history : σ → List κ) (key : κ → δ)
    (name : ι → δ) : Prop where
  distinct : ((history cluster.data).map key).Nodup
  sessions : ∀ client, (cluster.session client).Adds history key (name client)
    (name client ∈ (history cluster.data).map key)

namespace Cluster

variable {name : ι → δ} {cluster : Cluster σ ρ ι α}

theorem Adding.resume [DecidableEq ι] (adding : cluster.Adding history key name)
    {holder : ρ → Option ι} {client : ι} {session : Session σ ρ α}
    (adds : session.Adds history key (name client)
      (name client ∈ (history cluster.data).map key)) :
    ({ cluster with holder := holder }.resume client session).Adding history key name where
  distinct := adding.distinct
  sessions := by
    intro other
    by_cases same : other = client
    · subst same
      rw [session_resume { cluster with holder := holder }]
      exact adds
    · rw [session_resume_of_ne same]
      exact adding.sessions other

/-- A commit of data with the same history. -/
theorem Adding.commit_same [DecidableEq ι] (adding : cluster.Adding history key name)
    {data : σ} (same : SameHistory history cluster.data data) {holder : ρ → Option ι}
    {client : ι} {session : Session σ ρ α}
    (adds : session.Adds history key (name client)
      (name client ∈ (history cluster.data).map key)) :
    ({ cluster with
        data := data
        holder := holder }.resume client session).Adding history key name := by
  have sameHistory : history data = history cluster.data := same
  refine @Adding.resume _ _ _ _ _ _ _ _ _ { cluster with data := data } _ ⟨?_, ?_⟩ holder client
    session ?_
  · simpa only [sameHistory] using adding.distinct
  · simpa only [sameHistory] using adding.sessions
  · simpa only [sameHistory] using adds

/-- A commit of the entry of the client. -/
theorem Adding.commit_added [DecidableEq ι] (adding : cluster.Adding history key name)
    (injective : Function.Injective name) {client : ι}
    (unused : name client ∉ (history cluster.data).map key) {data : σ}
    (added : AddsEntry history key (name client) cluster.data data) {holder : ρ → Option ι}
    {session : Session σ ρ α} (same : ∀ state, SameHistory history state (session.pending state))
    (leaves : session.program.Leaves (SameHistory history) True) :
    ({ cluster with
        data := data
        holder := holder }.resume client session).Adding history key name := by
  obtain ⟨entry, ownKey, longer⟩ := added
  have keys : (history data).map key = name client :: (history cluster.data).map key := by
    rw [longer, List.map_cons, ownKey]
  constructor
  · change ((history data).map key).Nodup
    rw [keys]
    exact List.nodup_cons.mpr ⟨unused, adding.distinct⟩
  · intro other
    change Session.Adds _ history key _ (_ ∈ (history data).map key)
    by_cases own : other = client
    · subst own
      rw [session_resume { cluster with
        data := data
        holder := holder }]
      exact .after same leaves
    · rw [session_resume_of_ne own, keys]
      have apart : name other ≠ name client := fun clash => own (injective clash)
      cases adding.sessions other with
      | before free sameOther adds =>
          exact .before (by simp [apart, free]) sameOther adds
      | pending free addedOther leavesOther =>
          exact .pending (by simp [apart, free]) addedOther leavesOther
      | after sameOther leavesOther =>
          exact .after sameOther leavesOther

theorem Adding.advance [DecidableEq ι] [DecidableEq ρ]
    (adding : cluster.Adding history key name) (injective : Function.Injective name)
    (client : ι) : (cluster.advance client).Adding history key name := by
  have adds := adding.sessions client
  cases program : (cluster.session client).program with
  | done value =>
      simpa only [Cluster.advance, program] using adding
  | halted =>
      simpa only [Cluster.advance, program] using adding
  | read row next =>
      simp only [Cluster.advance, program]
      refine @Adding.resume _ _ _ _ _ _ _ _ _ cluster _ adding cluster.holder client _ ?_
      cases adds with
      | before unused same adds =>
          rw [program] at adds
          exact .before unused same (adds _)
      | pending unused added leaves =>
          rw [program] at leaves
          exact .pending unused added (leaves _)
      | after same leaves =>
          rw [program] at leaves
          exact .after same (leaves _)
  | lock row next =>
      simp only [Cluster.advance, program]
      split_ifs
      · refine adding.resume ?_
        cases adds with
        | before unused same adds =>
            rw [program] at adds
            exact .before unused same adds
        | pending unused added leaves =>
            rw [program] at leaves
            exact .pending unused added leaves
        | after same leaves =>
            rw [program] at leaves
            exact .after same leaves
      · exact adding
  | write change next =>
      simp only [Cluster.advance, program]
      refine @Adding.resume _ _ _ _ _ _ _ _ _ cluster _ adding cluster.holder client _ ?_
      cases adds with
      | before unused same adds =>
          rw [program] at adds
          rcases adds with ⟨sameWrite, later⟩ | ⟨added, later⟩
          · exact .before unused (fun state => (sameWrite _).trans (same state)) later
          · refine .pending unused (fun state => ?_) later
            obtain ⟨entry, ownKey, longer⟩ := added ((cluster.session client).pending state)
            exact ⟨entry, ownKey, longer.trans (congrArg _ (same state))⟩
      | pending unused added leaves =>
          rw [program] at leaves
          refine .pending unused (fun state => ?_) leaves.2
          obtain ⟨entry, ownKey, longer⟩ := added state
          exact ⟨entry, ownKey, (leaves.1 _).trans longer⟩
      | after same leaves =>
          rw [program] at leaves
          exact .after (fun state => (leaves.1 _).trans (same state)) leaves.2
  | commit next =>
      simp only [Cluster.advance, program]
      cases adds with
      | before unused same adds =>
          rw [program] at adds
          exact adding.commit_same (same _) (.before unused (fun _ => rfl) adds)
      | pending unused added leaves =>
          rw [program] at leaves
          exact adding.commit_added injective unused (added _) (fun _ => rfl) leaves.2
      | after same leaves =>
          rw [program] at leaves
          exact adding.commit_same (same _) (.after (fun _ => rfl) leaves.2)
  | rollback next =>
      simp only [Cluster.advance, program]
      refine adding.resume ?_
      cases adds with
      | before unused same adds =>
          rw [program] at adds
          exact .before unused (fun _ => rfl) adds
      | pending unused added leaves =>
          rw [program] at leaves
          exact .after (fun _ => rfl) leaves.2
      | after same leaves =>
          rw [program] at leaves
          exact .after (fun _ => rfl) leaves.2

theorem Adding.turn [DecidableEq ι] [DecidableEq ρ]
    (adding : cluster.Adding history key name) (injective : Function.Injective name)
    (turn : ι × Turn) : (cluster.turn turn).Adding history key name := by
  obtain ⟨client, advance | fail⟩ := turn
  · exact adding.advance injective client
  · exact adding.resume (.after (fun _ => rfl) trivial)

end Cluster

/-- In every run of clients which each add one entry at most, under names of their own
which were not used before, no two entries have one key. -/
theorem keys_nodup_of_adds [DecidableEq ι] [DecidableEq ρ] {name : ι → δ}
    (injective : Function.Injective name) {data : σ}
    (distinct : ((history data).map key).Nodup)
    (unused : ∀ client, name client ∉ (history data).map key)
    {programs : ι → Program σ ρ α}
    (adds : ∀ client, (programs client).Adds history key (name client))
    (schedule : List (ι × Turn)) :
    ((history ((readCommitted σ ρ ι α).run (Cluster.start data programs)
      schedule).data).map key).Nodup := by
  have start : (Cluster.start data programs).Adding history key name :=
    ⟨distinct, fun client => .before (unused client) (fun _ => rfl) (adds client)⟩
  have ends := (readCommitted σ ρ ι α).run_preserves
    (fun cluster => cluster.Adding history key name)
    (fun _ turn adding => adding.turn injective turn) start schedule
  exact ends.distinct

end Tchuno.Library
