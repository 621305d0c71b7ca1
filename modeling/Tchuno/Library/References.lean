import Mathlib.Algebra.BigOperators.Group.Finset.Piecewise
import Tchuno.Library.Table

/-!
# References between tables

Rows name rows of other tables by identifier.  When a row is deleted, a row which names it
is deleted with it or loses the reference.  A query which joins two tables sums over the
rows of one, chosen by what their references lead to in the other.
-/

namespace Tchuno.Library

universe u v w

namespace Table

variable {ρ : Type u} [Keyed ρ]

/-- Remove every accepted row; its identifier is not handed out again. -/
def deleteMany (table : Table ρ) (accept : ρ → Bool) : Table ρ where
  rows := table.rows.filter fun row => !accept row
  nextId := table.nextId
  bounded := fun row member => table.bounded row (List.mem_of_mem_filter member)
  distinct := table.distinct.sublist (List.filter_sublist.map Keyed.key)

/-- The reference names an accepted row. -/
def leadsTo (table : Table ρ) (accept : ρ → Bool) (reference : Option Nat) : Bool :=
  (reference.bind table.find?).any accept

/-- `ON DELETE SET NULL`: the reference, unless it names a deleted row. -/
def setNull (table : Table ρ) (deleted : ρ → Bool) (reference : Option Nat) : Option Nat :=
  if table.leadsTo deleted reference then none else reference

variable (table : Table ρ)

/-! ## Deletion -/

theorem mem_deleteMany {accept : ρ → Bool} {row : ρ} :
    row ∈ table.deleteMany accept ↔ row ∈ table ∧ accept row = false := by
  simp [deleteMany, mem_rows]

theorem find?_deleteMany (accept : ρ → Bool) (id : Nat) :
    (table.deleteMany accept).find? id = (table.find? id).filter fun row => !accept row := by
  cases found : table.find? id with
  | none =>
      rw [find?_eq_none_iff] at found
      rw [Option.filter_none, find?_eq_none_iff]
      exact fun row member => found row (table.mem_deleteMany.mp member).1
  | some row =>
      obtain ⟨member, sameKey⟩ := table.find?_eq_some_iff.mp found
      by_cases accepted : accept row = true
      · rw [Option.filter_some, accepted]
        simp only [Bool.not_true, Bool.false_eq_true, if_false]
        rw [find?_eq_none_iff]
        intro other kept same
        obtain ⟨otherMember, refused⟩ := table.mem_deleteMany.mp kept
        rw [table.eq_of_key_eq otherMember member (same.trans sameKey.symm), accepted] at refused
        cases refused
      · have refused : accept row = false := by simpa using accepted
        rw [Option.filter_some, refused]
        simp only [Bool.not_false, if_true]
        exact (table.deleteMany accept).find?_eq_some_iff.mpr
          ⟨table.mem_deleteMany.mpr ⟨member, refused⟩, sameKey⟩

/-- A reference which is left names a row which is left. -/
theorem isSome_find?_of_setNull {deleted : ρ → Bool} {reference : Option Nat} {id : Nat}
    (names : ∀ other, reference = some other → (table.find? other).isSome)
    (left : table.setNull deleted reference = some id) :
    reference = some id ∧ ((table.deleteMany deleted).find? id).isSome := by
  rw [setNull] at left
  split_ifs at left with gone
  obtain ⟨row, found⟩ := Option.isSome_iff_exists.mp (names id left)
  refine ⟨left, ?_⟩
  rw [left, leadsTo, Option.bind_some, found] at gone
  simp only [Option.any_some, Bool.not_eq_true] at gone
  rw [find?_deleteMany, found, Option.filter_some, gone]
  rfl

/-! ## Joins -/

section Join

variable {ι : Type v} {M : Type w} [AddCommMonoid M]

/-- Among rows with distinct identifiers one is met once. -/
theorem sum_ite_key {rows : List ρ} (distinct : (rows.map Keyed.key).Nodup) (id : Nat)
    (chosen : ρ → Bool) (amount : M) :
    ((rows.filter chosen).map fun row => if Keyed.key row = id then amount else 0).sum =
      if (rows.find? fun row => Keyed.key row == id).any chosen = true then amount else 0 := by
  induction rows with
  | nil =>
      rfl
  | cons head rest inductionHypothesis =>
      obtain ⟨fresh, distinctRest⟩ := List.nodup_cons.mp distinct
      by_cases same : Keyed.key head = id
      · have others : ((rest.filter chosen).map fun row =>
            if Keyed.key row = id then amount else 0).sum = 0 := by
          refine List.sum_eq_zero fun value made => ?_
          obtain ⟨row, present, rfl⟩ := List.mem_map.mp made
          refine if_neg fun sameKey => fresh ?_
          rw [same, ← sameKey]
          exact List.mem_map_of_mem (List.mem_of_mem_filter present)
        rw [List.find?_cons_of_pos (by simpa using same)]
        by_cases counted : chosen head = true
        · rw [List.filter_cons_of_pos counted, List.map_cons, List.sum_cons, others,
            if_pos same, Option.any_some, if_pos counted, add_zero]
        · rw [List.filter_cons_of_neg counted, others, Option.any_some, if_neg counted]
      · rw [List.find?_cons_of_neg (by simpa using same), ← inductionHypothesis distinctRest]
        by_cases counted : chosen head = true
        · rw [List.filter_cons_of_pos counted, List.map_cons, List.sum_cons, if_neg same,
            zero_add]
        · rw [List.filter_cons_of_neg counted]

theorem sum_ite_reference (chosen : ρ → Bool) (reference : Option Nat) (amount : M) :
    ((table.rows.filter chosen).map fun row =>
        if reference = some (Keyed.key row) then amount else 0).sum =
      if table.leadsTo chosen reference = true then amount else 0 := by
  cases reference with
  | none =>
      simp [leadsTo]
  | some id =>
      simp only [leadsTo, Option.bind_some, Option.some.injEq, find?, eq_comm (a := id)]
      exact sum_ite_key table.distinct id chosen amount

/-- A sum over the items whose references lead to chosen rows is that of the sums for each
of these rows. -/
theorem sum_leadsTo (items : List ι) (reference : ι → Option Nat) (weight : ι → M)
    (chosen : ρ → Bool) :
    ((items.filter fun item => table.leadsTo chosen (reference item)).map weight).sum =
      ((table.rows.filter chosen).map fun row =>
        ((items.filter fun item => reference item = some (Keyed.key row)).map
          weight).sum).sum := by
  induction items with
  | nil =>
      simp
  | cons item rest inductionHypothesis =>
      have perRow : ∀ row : ρ,
          (((item :: rest).filter fun item => reference item = some (Keyed.key row)).map
            weight).sum =
          (if reference item = some (Keyed.key row) then weight item else 0) +
            ((rest.filter fun item => reference item = some (Keyed.key row)).map
              weight).sum := by
        intro row
        by_cases names : reference item = some (Keyed.key row) <;> simp [names]
      simp only [perRow]
      rw [List.sum_map_add, sum_ite_reference, ← inductionHypothesis]
      by_cases counted : table.leadsTo chosen (reference item) = true <;> simp [counted]

omit [Keyed ρ] in
/-- A sum over rows which all have an owner among some is that of the sums for each
owner. -/
theorem sum_by_owner {κ : Type v} [DecidableEq κ] (rows : List ρ) (owner : ρ → Option κ)
    (weight : ρ → M) (owners : Finset κ)
    (owned : ∀ row ∈ rows, ∃ key ∈ owners, owner row = some key) :
    (∑ key ∈ owners, ((rows.filter fun row => owner row = some key).map weight).sum) =
      (rows.map weight).sum := by
  induction rows with
  | nil =>
      simp
  | cons row rest inductionHypothesis =>
      obtain ⟨own, present, owns⟩ := owned row List.mem_cons_self
      have later := inductionHypothesis fun other member =>
        owned other (List.mem_cons_of_mem row member)
      have perOwner : ∀ key ∈ owners,
          (((row :: rest).filter fun other => owner other = some key).map weight).sum =
          (if own = key then weight row else 0) +
            ((rest.filter fun other => owner other = some key).map weight).sum := by
        intro key _
        by_cases same : own = key <;> simp [owns, same]
      rw [Finset.sum_congr rfl perOwner, Finset.sum_add_distrib, later,
        Finset.sum_ite_eq owners own, if_pos present, List.map_cons, List.sum_cons]

end Join

end Table

end Tchuno.Library
