import Tchuno.Library.Table

/-!
# What one table shows of another

A table whose rows are what is seen of the rows of another.  Insertions, rewrites and
searches which see enough are the same on both.
-/

namespace Tchuno.Library.Table

universe u

/-- The rows as far as another table shows them. -/
def project {ρ τ : Type u} [Keyed ρ] [Keyed τ] (table : Table ρ) (seen : ρ → τ)
    (keeps : ∀ row, Keyed.key (seen row) = Keyed.key row) : Table τ where
  rows := table.rows.map seen
  nextId := table.nextId
  bounded := by
    intro row member
    obtain ⟨old, present, rfl⟩ := List.mem_map.mp member
    rw [keeps]
    exact table.bounded old present
  distinct := by
    rw [List.map_map]
    have sameKeys : (Keyed.key ∘ seen : ρ → Nat) = Keyed.key := funext keeps
    rw [sameKeys]
    exact table.distinct

section Project

variable {ρ τ : Type u} [Keyed ρ] [Keyed τ] {table : Table ρ} {seen : ρ → τ}
  (keeps : ∀ row, Keyed.key (seen row) = Keyed.key row)

/-- A search which sees enough finds the same row. -/
theorem findFirst?_project {accept : τ → Bool} {search : ρ → Bool}
    (same : ∀ row, accept (seen row) = search row) :
    (table.project seen keeps).findFirst? accept = (table.findFirst? search).map seen := by
  rw [findFirst?, project, List.find?_map, findFirst?]
  congr 2
  exact funext same

theorem project_insert {make : Nat → ρ} (keyed : ∀ id, Keyed.key (make id) = id)
    {shown : Nat → τ} (shownKeyed : ∀ id, Keyed.key (shown id) = id)
    (same : ∀ id, seen (make id) = shown id) :
    (table.insert make keyed).project seen keeps =
      (table.project seen keeps).insert shown shownKeyed := by
  refine eq_of_rows_eq ?_ rfl
  exact congrArg (· :: table.rows.map seen) (same table.nextId)

/-- A rewrite of one row, seen as a rewrite of what is seen of it. -/
theorem project_update {existing : ρ} (present : existing ∈ table) {change : ρ → ρ}
    (changeKeeps : ∀ row, Keyed.key (change row) = Keyed.key row) {shown : τ → τ}
    (shownKeeps : ∀ row, Keyed.key (shown row) = Keyed.key row)
    (same : seen (change existing) = shown (seen existing)) :
    (table.update (Keyed.key existing) change changeKeeps).project seen keeps =
      (table.project seen keeps).update (Keyed.key existing) shown shownKeeps := by
  refine eq_of_rows_eq ?_ rfl
  change (table.rows.map _).map seen = (table.rows.map seen).map _
  rw [List.map_map, List.map_map]
  refine List.map_congr_left fun row member => ?_
  simp only [Function.comp_apply, keeps]
  by_cases own : Keyed.key row = Keyed.key existing
  · obtain rfl := table.eq_of_key_eq member present own
    simp [same]
  · simp [own]

/-- A rewrite of which nothing is seen. -/
theorem project_update_of_same {id : Nat} {change : ρ → ρ}
    (changeKeeps : ∀ row, Keyed.key (change row) = Keyed.key row)
    (same : ∀ row, seen (change row) = seen row) :
    (table.update id change changeKeeps).project seen keeps = table.project seen keeps := by
  refine eq_of_rows_eq ?_ rfl
  change (table.rows.map _).map seen = table.rows.map seen
  rw [List.map_map]
  refine List.map_congr_left fun row _ => ?_
  simp only [Function.comp_apply]
  split_ifs
  · exact same row
  · rfl

end Project

end Tchuno.Library.Table
