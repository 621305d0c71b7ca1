import Mathlib.Data.List.Basic

/-!
# Pages of a list which grows

Each page is cut out of the list as it is when the page is asked for.  As long as nothing
goes from the list, whatever was in it at the start is on some page, however many items
come in between.
-/

namespace Tchuno.Library.Paging

universe u

variable {α : Type u}

/-- `skip` and `take` of a query. -/
def slice (skip limit : Nat) (items : List α) : List α :=
  (items.drop skip).take limit

/-- One page of each list, one after another. -/
def turnPages (limit : Nat) : Nat → List (List α) → List (List α)
  | _, [] => []
  | skip, items :: later => slice skip limit items :: turnPages limit (skip + limit) later

theorem slice_map {β : Type u} (f : α → β) (skip limit : Nat) (items : List α) :
    slice skip limit (items.map f) = (slice skip limit items).map f := by
  rw [slice, slice, ← List.map_drop, ← List.map_take]

theorem turnPages_map {β : Type u} (f : α → β) (limit skip : Nat) (lists : List (List α)) :
    turnPages limit skip (lists.map (List.map f)) =
      (turnPages limit skip lists).map (List.map f) := by
  induction lists generalizing skip with
  | nil =>
      rfl
  | cons items later inductionHypothesis =>
      rw [List.map_cons, turnPages, turnPages, List.map_cons, slice_map, inductionHypothesis]

/-- A page with room left is the last one. -/
theorem length_le_of_length_slice_lt {skip limit : Nat} {items : List α}
    (short : (slice skip limit items).length < limit) : items.length ≤ skip + limit := by
  rw [slice, List.length_take, List.length_drop] at short
  omega

/-- Pages of a list which stays as it is. -/
theorem flatten_turnPages_replicate (limit skip count : Nat) (items : List α) :
    (turnPages limit skip (List.replicate count items)).flatten =
      slice skip (count * limit) items := by
  induction count generalizing skip with
  | zero =>
      rw [Nat.zero_mul, slice, List.take_zero]
      rfl
  | succ count inductionHypothesis =>
      rw [List.replicate_succ, turnPages, List.flatten_cons, inductionHypothesis, slice, slice,
        slice, Nat.add_mul, Nat.one_mul, Nat.add_comm (count * limit), List.take_add,
        List.drop_drop]

section Growing

variable {limit skip : Nat} {item : α}

/-- What is ahead is on the next page, or still ahead after it. -/
theorem mem_slice_or_ahead {items later : List α} (grows : items.Sublist later)
    (ahead : item ∈ items.drop skip) :
    item ∈ slice skip limit later ∨ item ∈ later.drop (skip + limit) := by
  have still : item ∈ later.drop skip := (grows.drop skip).subset ahead
  rw [← List.take_append_drop limit (later.drop skip), List.mem_append, List.drop_drop] at still
  exact still

/-- Whoever turns the pages to the last one sees everything which was ahead. -/
theorem exists_mem_turnPages {items last : List α} {lists : List (List α)}
    (grows : (items :: (lists ++ [last])).IsChain List.Sublist)
    (ended : last.length ≤ skip + (lists.length + 1) * limit)
    (ahead : item ∈ items.drop skip) :
    ∃ page ∈ turnPages limit skip (lists ++ [last]), item ∈ page := by
  induction lists generalizing items skip with
  | nil =>
      refine ⟨slice skip limit last, List.mem_singleton_self _, ?_⟩
      obtain ⟨first, -⟩ := List.isChain_cons_cons.mp grows
      rcases @mem_slice_or_ahead _ limit _ _ _ _ first ahead with seen | beyond
      · exact seen
      · rw [List.length_nil, Nat.zero_add, Nat.one_mul] at ended
        rw [List.drop_eq_nil_of_le ended] at beyond
        cases beyond
  | cons next lists inductionHypothesis =>
      obtain ⟨first, rest⟩ := List.isChain_cons_cons.mp grows
      rcases @mem_slice_or_ahead _ limit _ _ _ _ first ahead with seen | beyond
      · exact ⟨_, List.mem_cons_self, seen⟩
      · have shorter : last.length ≤ skip + limit + (lists.length + 1) * limit := by
          rw [List.length_cons, Nat.add_mul, Nat.one_mul] at ended
          omega
        obtain ⟨page, turned, seen⟩ := inductionHypothesis rest shorter beyond
        exact ⟨page, List.mem_cons_of_mem _ turned, seen⟩

end Growing

end Tchuno.Library.Paging
