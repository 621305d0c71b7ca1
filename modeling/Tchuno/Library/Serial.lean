import Tchuno.Library.Script

/-!
# Scripts which run one after another

If no other client runs, a script is a function of the data.  The rules below follow it
statement by statement: outside of a transaction nothing is pending, so what is
committed and what the client sees are the same.
-/

namespace Tchuno.Library.Script

variable {σ ρ ε α β : Type}

/-- The result of a script whose client runs alone, and the data it leaves. -/
def serve (script : Script σ ρ ε α) (data : σ) : Option (Except ε α) × σ :=
  ((Program.alone script data data).1, (Program.alone script data data).2.1)

/-- Alone on settled data the script ends with nothing pending, and result and data meet
the postcondition. -/
def Serves (post : Except ε α → σ → Prop) (script : Script σ ρ ε α) (data : σ) : Prop :=
  ∃ result after, Program.alone script data data = (some result, after, after) ∧
    post result after

/-- Inside a transaction the script ends without a commit, and result and pending data
meet the postcondition. -/
def Drafts (committed : σ) (post : Except ε α → σ → Prop) (script : Script σ ρ ε α)
    (current : σ) : Prop :=
  ∃ result written, Program.alone script committed current =
    (some result, committed, written) ∧ post result written

/-- What is left to show when the first part of a script ends. -/
def Follows (later : (α → σ → Prop)) (failed : ε → σ → Prop) : Except ε α → σ → Prop
  | .ok value, data => later value data
  | .error error, data => failed error data

theorem alone_bind (program : Program σ ρ α) (next : α → Program σ ρ β)
    (committed current : σ) :
    (program.bind next).alone committed current =
      match program.alone committed current with
      | (some value, after, written) => (next value).alone after written
      | (none, after, written) => (none, after, written) := by
  induction program generalizing committed current with
  | done value =>
      rfl
  | halted =>
      rfl
  | read row next inductionHypothesis =>
      exact inductionHypothesis _ _ _
  | lock row next inductionHypothesis =>
      exact inductionHypothesis _ _
  | write change next inductionHypothesis =>
      exact inductionHypothesis _ _
  | commit next inductionHypothesis =>
      exact inductionHypothesis _ _
  | rollback next inductionHypothesis =>
      exact inductionHypothesis _ _

theorem Serves.mono {post other : Except ε α → σ → Prop} {script : Script σ ρ ε α} {data : σ}
    (serves : script.Serves post data)
    (implies : ∀ result after, post result after → other result after) :
    script.Serves other data := by
  obtain ⟨result, after, ends, holds⟩ := serves
  exact ⟨result, after, ends, implies result after holds⟩

/-- What every end of the script meets is met by what `serve` computes. -/
theorem Serves.serve {post : Except ε α → σ → Prop} {script : Script σ ρ ε α} {data : σ}
    (serves : script.Serves post data) :
    ∃ result, (script.serve data).1 = some result ∧ post result (script.serve data).2 := by
  obtain ⟨result, after, ends, holds⟩ := serves
  rw [Script.serve, ends]
  exact ⟨result, rfl, holds⟩

/-! ## Outside of transactions -/

section Rules

variable {post : Except ε β → σ → Prop} {data : σ}

theorem serves_pure {post : Except ε α → σ → Prop} {value : α}
    (holds : post (.ok value) data) : (pure value : Script σ ρ ε α).Serves post data :=
  ⟨_, _, rfl, holds⟩

theorem serves_fail {post : Except ε α → σ → Prop} {error : ε}
    (holds : post (.error error) data) : (fail error : Script σ ρ ε α).Serves post data :=
  ⟨_, _, rfl, holds⟩

theorem serves_bind {first : Script σ ρ ε α} {next : α → Script σ ρ ε β}
    (serves : first.Serves
      (Follows (fun value after => (next value).Serves post after) fun error after =>
        post (.error error) after) data) :
    (first >>= next : Script σ ρ ε β).Serves post data := by
  obtain ⟨result, after, ends, follows⟩ := serves
  cases result with
  | ok value =>
      obtain ⟨last, final, endsLater, holds⟩ := follows
      refine ⟨last, final, ?_, holds⟩
      refine (alone_bind (first : Program σ ρ (Except ε α)) _ data data).trans ?_
      rw [ends]
      exact endsLater
  | error error =>
      refine ⟨.error error, after, ?_, follows⟩
      refine (alone_bind (first : Program σ ρ (Except ε α)) _ data data).trans ?_
      rw [ends]
      rfl

theorem serves_select_bind {row : ρ} {view : σ → α} {next : α → Script σ ρ ε β}
    (serves : (next (view data)).Serves post data) :
    (select row view >>= next : Script σ ρ ε β).Serves post data := serves

theorem serves_consult_bind {row : ρ} {checks : σ → Except ε α} {next : α → Script σ ρ ε β}
    (passed : ∀ value, checks data = .ok value → (next value).Serves post data)
    (failed : ∀ error, checks data = .error error → post (.error error) data) :
    (consult row checks >>= next : Script σ ρ ε β).Serves post data := by
  refine serves_bind ⟨checks data, data, rfl, ?_⟩
  cases checked : checks data with
  | ok value =>
      exact passed value checked
  | error error =>
      exact failed error checked

theorem serves_require_bind {condition : Prop} [Decidable condition] {error : ε}
    {next : Unit → Script σ ρ ε β}
    (met : condition → (next ()).Serves post data)
    (refused : ¬ condition → post (.error error) data) :
    (require condition error >>= next : Script σ ρ ε β).Serves post data := by
  refine serves_bind ⟨_, data, rfl, ?_⟩
  by_cases holds : condition
  · rw [if_pos holds]
    exact met holds
  · rw [if_neg holds]
    exact refused holds

/-! What every part of a script leaves behind, whatever it returns. -/

theorem serves_kept_pure {kept : σ → Prop} {value : α} (holds : kept data) :
    (pure value : Script σ ρ ε α).Serves (fun _ after => kept after) data :=
  serves_pure holds

theorem serves_kept_bind {kept : σ → Prop} {first : Script σ ρ ε α}
    {next : α → Script σ ρ ε β} (serves : first.Serves (fun _ after => kept after) data)
    (later : ∀ value after, kept after →
      (next value).Serves (fun _ final => kept final) after) :
    (first >>= next : Script σ ρ ε β).Serves (fun _ after => kept after) data := by
  refine serves_bind (serves.mono fun result after reached => ?_)
  cases result with
  | ok value =>
      exact later value after reached
  | error error =>
      exact reached

/-- A transaction which fails leaves the data as it was. -/
theorem serves_transaction {post : Except ε α → σ → Prop} {body : Script σ ρ ε α}
    (drafts : body.Drafts data
      (Follows (fun value written => post (.ok value) written) fun error _ =>
        post (.error error) data) data) :
    (transaction body).Serves post data := by
  obtain ⟨result, written, ends, follows⟩ := drafts
  cases result with
  | ok value =>
      refine ⟨.ok value, written, ?_, follows⟩
      refine (alone_bind (body : Program σ ρ (Except ε α)) _ data data).trans ?_
      rw [ends]
      rfl
  | error error =>
      refine ⟨.error error, data, ?_, follows⟩
      refine (alone_bind (body : Program σ ρ (Except ε α)) _ data data).trans ?_
      rw [ends]
      rfl

end Rules

/-! ## Inside of transactions -/

section Transactions

variable {post : Except ε β → σ → Prop} {committed current : σ}

theorem drafts_pure {post : Except ε α → σ → Prop} {value : α}
    (holds : post (.ok value) current) :
    (pure value : Script σ ρ ε α).Drafts committed post current :=
  ⟨_, _, rfl, holds⟩

theorem drafts_bind {first : Script σ ρ ε α} {next : α → Script σ ρ ε β}
    (drafts : first.Drafts committed
      (Follows (fun value written => (next value).Drafts committed post written)
        fun error written => post (.error error) written) current) :
    (first >>= next : Script σ ρ ε β).Drafts committed post current := by
  obtain ⟨result, written, ends, follows⟩ := drafts
  cases result with
  | ok value =>
      obtain ⟨last, final, endsLater, holds⟩ := follows
      refine ⟨last, final, ?_, holds⟩
      refine (alone_bind (first : Program σ ρ (Except ε α)) _ committed current).trans ?_
      rw [ends]
      exact endsLater
  | error error =>
      refine ⟨.error error, written, ?_, follows⟩
      refine (alone_bind (first : Program σ ρ (Except ε α)) _ committed current).trans ?_
      rw [ends]
      rfl

theorem drafts_select_bind {row : ρ} {view : σ → α} {next : α → Script σ ρ ε β}
    (drafts : (next (view current)).Drafts committed post current) :
    (select row view >>= next : Script σ ρ ε β).Drafts committed post current := drafts

theorem drafts_consult_bind {row : ρ} {checks : σ → Except ε α}
    {next : α → Script σ ρ ε β}
    (passed : ∀ value, checks current = .ok value →
      (next value).Drafts committed post current)
    (failed : ∀ error, checks current = .error error → post (.error error) current) :
    (consult row checks >>= next : Script σ ρ ε β).Drafts committed post current := by
  refine drafts_bind ⟨checks current, current, rfl, ?_⟩
  cases checked : checks current with
  | ok value =>
      exact passed value checked
  | error error =>
      exact failed error checked

theorem drafts_lock_bind {row : ρ} {next : Unit → Script σ ρ ε β}
    (drafts : (next ()).Drafts committed post current) :
    (lock row >>= next : Script σ ρ ε β).Drafts committed post current := drafts

theorem drafts_lockAll_bind {rows : List ρ} {next : Unit → Script σ ρ ε β}
    (drafts : (next ()).Drafts committed post current) :
    (lockAll rows >>= next : Script σ ρ ε β).Drafts committed post current := by
  induction rows with
  | nil =>
      exact drafts
  | cons row rest inductionHypothesis =>
      exact inductionHypothesis

theorem drafts_write_bind {change : σ → σ} {next : Unit → Script σ ρ ε β}
    (drafts : (next ()).Drafts committed post (change current)) :
    (write change >>= next : Script σ ρ ε β).Drafts committed post current := drafts

theorem drafts_write {post : Except ε Unit → σ → Prop} {change : σ → σ}
    (holds : post (.ok ()) (change current)) :
    (write change : Script σ ρ ε Unit).Drafts committed post current :=
  ⟨_, _, rfl, holds⟩

end Transactions

end Tchuno.Library.Script
