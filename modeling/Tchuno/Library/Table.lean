import Mathlib.Algebra.BigOperators.Group.List.Lemmas
import Mathlib.Algebra.Order.BigOperators.Group.List
import Mathlib.Algebra.Order.Group.Int
import Mathlib.Algebra.Ring.Int.Defs
import Mathlib.Data.List.Nodup

/-!
# Tables with serial identifiers

A table lists its rows newest first.  Identifiers are handed out in increasing
order and never twice; the structure carries the proof, so every row is
determined by its identifier.
-/

namespace Tchuno.Library

universe u

/-- Rows which know their own identifier. -/
class Keyed (ρ : Type u) where
  key : ρ → Nat

/-- A table whose rows have distinct identifiers below `nextId`. -/
structure Table (ρ : Type u) [Keyed ρ] where
  rows : List ρ
  nextId : Nat
  bounded : ∀ row ∈ rows, Keyed.key row < nextId
  distinct : (rows.map Keyed.key).Nodup

namespace Table

variable {ρ : Type u} [Keyed ρ]

instance : Membership ρ (Table ρ) where
  mem table row := row ∈ table.rows

instance decidableForallMem (table : Table ρ) (property : ρ → Prop)
    [DecidablePred property] : Decidable (∀ row ∈ table, property row) :=
  inferInstanceAs (Decidable (∀ row ∈ table.rows, property row))

/-- The table without rows. -/
def empty : Table ρ where
  rows := []
  nextId := 0
  bounded := by simp
  distinct := by simp

/-- The row with this identifier. -/
def find? (table : Table ρ) (id : Nat) : Option ρ :=
  table.rows.find? fun row => Keyed.key row == id

/-- The newest row accepted by the filter. -/
def findFirst? (table : Table ρ) (accept : ρ → Bool) : Option ρ :=
  table.rows.find? accept

/-- All rows accepted by the filter, newest first. -/
def findMany (table : Table ρ) (accept : ρ → Bool) : List ρ :=
  table.rows.filter accept

/-- Add the row built from the next identifier. -/
def insert (table : Table ρ) (make : Nat → ρ)
    (keyed : ∀ id, Keyed.key (make id) = id := by intro _; exact id rfl) : Table ρ where
  rows := make table.nextId :: table.rows
  nextId := table.nextId + 1
  bounded := by
    intro row member
    rcases List.mem_cons.mp member with rfl | older
    · rw [keyed]
      omega
    · have := table.bounded row older
      omega
  distinct := by
    rw [List.map_cons, List.nodup_cons, keyed]
    refine ⟨?_, table.distinct⟩
    intro member
    obtain ⟨row, older, sameKey⟩ := List.mem_map.mp member
    have := table.bounded row older
    omega

/-- Add a row which brings its identifier, unless that is in use. -/
def place (table : Table ρ) (row : ρ) : Table ρ :=
  if unused : table.find? (Keyed.key row) = none then
    { rows := row :: table.rows
      nextId := max table.nextId (Keyed.key row + 1)
      bounded := by
        intro other member
        rcases List.mem_cons.mp member with rfl | older
        · omega
        · have := table.bounded other older
          omega
      distinct := by
        rw [List.map_cons, List.nodup_cons]
        refine ⟨fun member => ?_, table.distinct⟩
        obtain ⟨other, older, sameKey⟩ := List.mem_map.mp member
        have missing := List.find?_eq_none.mp unused other older
        simp [sameKey] at missing }
  else
    table

/-- Rewrite every accepted row in place. -/
def updateMany (table : Table ρ) (accept : ρ → Bool) (change : ρ → ρ)
    (keeps : ∀ row, Keyed.key (change row) = Keyed.key row := by intro _; exact id rfl) :
    Table ρ where
  rows := table.rows.map fun row => if accept row then change row else row
  nextId := table.nextId
  bounded := by
    intro row member
    obtain ⟨old, oldMember, rfl⟩ := List.mem_map.mp member
    have bound := table.bounded old oldMember
    split_ifs
    · rw [keeps]
      exact bound
    · exact bound
  distinct := by
    have sameKeys :
        (table.rows.map fun row => if accept row then change row else row).map
          Keyed.key = table.rows.map Keyed.key := by
      rw [List.map_map]
      refine List.map_congr_left fun row _ => ?_
      simp only [Function.comp_apply]
      split_ifs
      · exact keeps row
      · rfl
    rw [sameKeys]
    exact table.distinct

/-- Rewrite the row with this identifier. -/
def update (table : Table ρ) (id : Nat) (change : ρ → ρ)
    (keeps : ∀ row, Keyed.key (change row) = Keyed.key row := by intro _; exact id rfl) :
    Table ρ :=
  table.updateMany (fun row => Keyed.key row == id) change keeps

/-- Sum of a quantity over the rows. -/
def total (table : Table ρ) (weight : ρ → Int) : Int :=
  (table.rows.map weight).sum

variable (table : Table ρ)

/-- A table is its rows and its next identifier. -/
theorem eq_of_rows_eq {left right : Table ρ} (sameRows : left.rows = right.rows)
    (sameNext : left.nextId = right.nextId) : left = right := by
  cases left
  cases right
  simp only at sameRows sameNext
  congr

theorem mem_rows {row : ρ} : row ∈ table ↔ row ∈ table.rows := Iff.rfl

@[simp]
theorem not_mem_empty (row : ρ) : row ∉ (empty : Table ρ) := by
  simp [mem_rows, empty]

theorem key_lt_nextId {row : ρ} (member : row ∈ table) :
    Keyed.key row < table.nextId :=
  table.bounded row member

/-- Rows are determined by their identifiers. -/
theorem eq_of_key_eq {left right : ρ} (leftMember : left ∈ table)
    (rightMember : right ∈ table) (sameKey : Keyed.key left = Keyed.key right) :
    left = right :=
  List.inj_on_of_nodup_map table.distinct leftMember rightMember sameKey

theorem find?_eq_some_iff {id : Nat} {row : ρ} :
    table.find? id = some row ↔ row ∈ table ∧ Keyed.key row = id := by
  constructor
  · intro found
    refine ⟨List.mem_of_find?_eq_some found, ?_⟩
    simpa using List.find?_some found
  · rintro ⟨member, rfl⟩
    have present : (table.find? (Keyed.key row)).isSome := by
      rw [find?, List.find?_isSome]
      exact ⟨row, member, by simp⟩
    obtain ⟨other, found⟩ := Option.isSome_iff_exists.mp present
    have otherMember : other ∈ table := List.mem_of_find?_eq_some found
    have sameKey : Keyed.key other = Keyed.key row := by
      simpa using List.find?_some found
    rw [found, table.eq_of_key_eq otherMember member sameKey]

theorem find?_eq_none_iff {id : Nat} :
    table.find? id = none ↔ ∀ row ∈ table, Keyed.key row ≠ id := by
  rw [find?, List.find?_eq_none]
  simp [mem_rows]

theorem mem_of_find? {id : Nat} {row : ρ} (found : table.find? id = some row) :
    row ∈ table :=
  (table.find?_eq_some_iff.mp found).1

theorem key_of_find? {id : Nat} {row : ρ} (found : table.find? id = some row) :
    Keyed.key row = id :=
  (table.find?_eq_some_iff.mp found).2

/-- The next identifier is not in use. -/
theorem find?_nextId : table.find? table.nextId = none := by
  rw [find?_eq_none_iff]
  intro row member same
  exact absurd (table.key_lt_nextId member) (by omega)

/-- Looking a found row up again, by its own identifier. -/
theorem find?_key {id : Nat} {row : ρ} (found : table.find? id = some row) :
    table.find? (Keyed.key row) = some row := by
  rw [table.key_of_find? found, found]

theorem mem_of_findFirst? {accept : ρ → Bool} {row : ρ}
    (found : table.findFirst? accept = some row) :
    row ∈ table ∧ accept row = true :=
  ⟨List.mem_of_find?_eq_some found, List.find?_some found⟩

theorem findFirst?_eq_none_iff {accept : ρ → Bool} :
    table.findFirst? accept = none ↔ ∀ row ∈ table, ¬ accept row = true := by
  simp [findFirst?, mem_rows]

/-! ## Totals -/

theorem total_congr {weight other : ρ → Int} (same : ∀ row ∈ table, weight row = other row) :
    table.total weight = table.total other :=
  congrArg List.sum (List.map_congr_left same)

theorem total_add (weight other : ρ → Int) :
    (table.total fun row => weight row + other row) = table.total weight + table.total other :=
  List.sum_map_add

theorem total_nonneg {weight : ρ → Int} (nonneg : ∀ row ∈ table, 0 ≤ weight row) :
    0 ≤ table.total weight := by
  apply List.sum_nonneg
  intro value member
  obtain ⟨row, present, rfl⟩ := List.mem_map.mp member
  exact nonneg row present

/-- Summing over the chosen rows is counting the other ones with zero. -/
theorem sum_filter_rows (chosen : ρ → Prop) [DecidablePred chosen] (weight : ρ → Int) :
    ((table.rows.filter chosen).map weight).sum =
      table.total fun row => if chosen row then weight row else 0 := by
  simp [total, List.sum_map_ite]

section Insert

variable (make : Nat → ρ) (keyed : ∀ id, Keyed.key (make id) = id)

@[simp]
theorem nextId_insert : (table.insert make keyed).nextId = table.nextId + 1 := rfl

@[simp]
theorem mem_insert {row : ρ} :
    row ∈ table.insert make keyed ↔ row = make table.nextId ∨ row ∈ table := by
  simp [mem_rows, insert]

variable {table make keyed} in
theorem eq_or_mem_of_insert {row : ρ} (member : row ∈ table.insert make keyed) :
    row = make table.nextId ∨ row ∈ table :=
  (table.mem_insert make keyed).mp member

theorem find?_insert (id : Nat) :
    (table.insert make keyed).find? id =
      if id = table.nextId then some (make table.nextId) else table.find? id := by
  rw [find?, insert, List.find?_cons]
  by_cases newest : id = table.nextId
  · simp [newest, keyed]
  · have different : (Keyed.key (make table.nextId) == id) = false := by
      rw [keyed]
      simpa using fun same => newest same.symm
    simp [different, newest, find?]

@[simp]
theorem find?_insert_nextId :
    (table.insert make keyed).find? table.nextId = some (make table.nextId) := by
  rw [find?_insert, if_pos rfl]

theorem find?_insert_of_some {id : Nat} {row : ρ}
    (found : table.find? id = some row) :
    (table.insert make keyed).find? id = some row := by
  have bound := table.key_lt_nextId (table.mem_of_find? found)
  rw [table.key_of_find? found] at bound
  rw [find?_insert, if_neg (by omega), found]

@[simp]
theorem total_insert (weight : ρ → Int) :
    (table.insert make keyed).total weight =
      weight (make table.nextId) + table.total weight := by
  simp [total, insert]

end Insert

section Place

variable {table} {row : ρ}

theorem mem_place_of_unused (unused : table.find? (Keyed.key row) = none) {other : ρ} :
    other ∈ table.place row ↔ other = row ∨ other ∈ table := by
  rw [place, dif_pos unused]
  exact List.mem_cons

theorem eq_or_mem_of_place {other : ρ} (member : other ∈ table.place row) :
    other = row ∨ other ∈ table := by
  by_cases unused : table.find? (Keyed.key row) = none
  · exact (mem_place_of_unused unused).mp member
  · rw [place, dif_neg unused] at member
    exact .inr member

theorem find?_place (id : Nat) :
    (table.place row).find? id =
      if id = Keyed.key row ∧ table.find? id = none then some row else table.find? id := by
  by_cases unused : table.find? (Keyed.key row) = none
  · rw [place, dif_pos unused, find?, List.find?_cons]
    by_cases newest : id = Keyed.key row
    · subst newest
      simp [unused]
    · have different : (Keyed.key row == id) = false := by
        simpa using fun same => newest same.symm
      simp [different, newest, find?]
  · rw [place, dif_neg unused]
    split_ifs with newest
    · exact absurd (newest.1 ▸ newest.2) unused
    · rfl

theorem find?_place_of_some {id : Nat} {other : ρ} (found : table.find? id = some other) :
    (table.place row).find? id = some other := by
  rw [find?_place, if_neg (by simp [found]), found]

/-- With the next identifier, this is an insertion. -/
theorem place_eq_insert (make : Nat → ρ) (keyed : ∀ id, Keyed.key (make id) = id) :
    table.place (make table.nextId) = table.insert make keyed := by
  have unused : table.find? (Keyed.key (make table.nextId)) = none := by
    rw [keyed]
    exact table.find?_nextId
  rw [place, dif_pos unused]
  simp only [insert, keyed]
  congr 1
  omega

end Place

section Update

variable (accept : ρ → Bool) (change : ρ → ρ)
  (keeps : ∀ row, Keyed.key (change row) = Keyed.key row)

@[simp]
theorem nextId_updateMany :
    (table.updateMany accept change keeps).nextId = table.nextId := rfl

@[simp]
theorem nextId_update (id : Nat) :
    (table.update id change keeps).nextId = table.nextId := rfl

@[simp]
theorem mem_updateMany {row : ρ} :
    row ∈ table.updateMany accept change keeps ↔
      ∃ old ∈ table, row = if accept old then change old else old := by
  simp only [mem_rows, updateMany, List.mem_map, eq_comm]

theorem mem_update {id : Nat} {row : ρ} :
    row ∈ table.update id change keeps ↔
      ∃ old ∈ table, row = if Keyed.key old = id then change old else old := by
  simp [update]

variable {table change keeps} in
theorem exists_of_update {id : Nat} {row : ρ}
    (member : row ∈ table.update id change keeps) :
    ∃ old ∈ table, row = if Keyed.key old = id then change old else old :=
  (table.mem_update change keeps).mp member

theorem find?_updateMany (id : Nat) :
    (table.updateMany accept change keeps).find? id =
      (table.find? id).map fun row => if accept row then change row else row := by
  rw [find?, updateMany, List.find?_map, find?]
  congr 2
  funext row
  simp only [Function.comp_apply]
  split_ifs
  · rw [keeps]
  · rfl

theorem find?_update (id other : Nat) :
    (table.update id change keeps).find? other =
      if other = id then (table.find? other).map change
      else table.find? other := by
  rw [update, find?_updateMany]
  cases found : table.find? other with
  | none =>
      simp
  | some row =>
      have sameKey := table.key_of_find? found
      by_cases same : other = id
      · simp [same, sameKey]
      · simp [same, sameKey]

/-- A rewrite is the same for filters which agree on the rows. -/
theorem updateMany_congr {other : ρ → Bool} (same : ∀ row ∈ table, accept row = other row) :
    table.updateMany accept change keeps = table.updateMany other change keeps := by
  have sameRows : (table.updateMany accept change keeps).rows =
      (table.updateMany other change keeps).rows := by
    simp only [updateMany]
    refine List.map_congr_left fun row member => ?_
    rw [same row member]
  exact eq_of_rows_eq sameRows rfl

/-- Every row of a rewritten table is an old one, as far as the fixed parts agree. -/
theorem exists_of_map_rows {τ : Type u} {fixed : ρ → τ} {before after : Table ρ}
    (same : after.rows.map fixed = before.rows.map fixed) {row : ρ} (member : row ∈ after) :
    ∃ old ∈ before, fixed row = fixed old := by
  have image : fixed row ∈ before.rows.map fixed :=
    same ▸ List.mem_map_of_mem member
  obtain ⟨old, oldMember, kept⟩ := List.mem_map.mp image
  exact ⟨old, oldMember, kept.symm⟩

/-- Rewriting one row moves a total by the change of that row. -/
theorem total_update {id : Nat} {row : ρ} (found : table.find? id = some row)
    (weight : ρ → Int) :
    (table.update id change keeps).total weight =
      table.total weight + (weight (change row) - weight row) := by
  obtain ⟨member, sameKey⟩ := table.find?_eq_some_iff.mp found
  obtain ⟨newer, older, split⟩ := List.append_of_mem member
  have apart : ∀ other ∈ newer ++ older, Keyed.key other ≠ id := by
    intro other otherMember clash
    have distinct := table.distinct
    rw [split, List.map_append, List.map_cons, List.nodup_middle,
      List.nodup_cons, ← List.map_append] at distinct
    exact distinct.1 (List.mem_map.mpr ⟨other, otherMember, clash.trans sameKey.symm⟩)
  have untouched : ∀ part : List ρ, (∀ other ∈ part, Keyed.key other ≠ id) →
      (part.map fun other =>
        if (Keyed.key other == id) = true then change other else other) = part := by
    intro part separate
    refine (List.map_congr_left fun other otherMember => ?_).trans (List.map_id _)
    simp [separate other otherMember]
  simp only [total, update, updateMany]
  rw [split]
  rw [List.map_append, List.map_cons,
    untouched newer fun other otherMember => apart other (by simp [otherMember]),
    untouched older fun other otherMember => apart other (by simp [otherMember])]
  simp only [sameKey, beq_self_eq_true, if_true, List.map_append, List.map_cons,
    List.sum_append, List.sum_cons]
  omega

/-- Rewriting a row to itself changes nothing. -/
theorem update_eq_self {id : Nat} {row : ρ} (found : table.find? id = some row)
    (same : change row = row) : table.update id change keeps = table := by
  have sameRows : (table.update id change keeps).rows = table.rows := by
    simp only [update, updateMany]
    refine (List.map_congr_left fun other member => ?_).trans (List.map_id _)
    split_ifs with key
    · have otherKey : Keyed.key other = Keyed.key row := by
        rw [table.key_of_find? found]
        simpa using key
      rw [table.eq_of_key_eq member (table.mem_of_find? found) otherKey, same]
      rfl
    · rfl
  exact eq_of_rows_eq sameRows rfl

theorem updateMany_eq_self (refused : ∀ row ∈ table, accept row = false) :
    table.updateMany accept change keeps = table := by
  have sameRows : (table.updateMany accept change keeps).rows = table.rows := by
    simp only [updateMany]
    refine (List.map_congr_left fun row member => ?_).trans (List.map_id _)
    rw [refused row member]
    rfl
  exact eq_of_rows_eq sameRows rfl

/-- What a rewrite keeps of every row. -/
theorem map_rows_updateMany {τ : Type u} {fixed : ρ → τ}
    (kept : ∀ row, fixed (change row) = fixed row) :
    (table.updateMany accept change keeps).rows.map fixed = table.rows.map fixed := by
  rw [updateMany, List.map_map]
  refine List.map_congr_left fun row _ => ?_
  simp only [Function.comp_apply]
  split_ifs
  · exact kept row
  · rfl

theorem map_rows_update {τ : Type u} (id : Nat) {fixed : ρ → τ}
    (kept : ∀ row, fixed (change row) = fixed row) :
    (table.update id change keeps).rows.map fixed = table.rows.map fixed :=
  table.map_rows_updateMany _ change keeps kept

theorem total_updateMany_of_eq {weight : ρ → Int}
    (same : ∀ row ∈ table, accept row = true → weight (change row) = weight row) :
    (table.updateMany accept change keeps).total weight = table.total weight := by
  simp only [total, updateMany, List.map_map]
  congr 1
  refine List.map_congr_left fun row member => ?_
  simp only [Function.comp_apply]
  split_ifs with accepted
  · exact same row member accepted
  · rfl

end Update

/-! ## Rows over time -/

/-- Every old row is still there, with the same fixed part. -/
def Evolves {τ : Type u} (fixed : ρ → τ) (older newer : Table ρ) : Prop :=
  ∀ id row, older.find? id = some row →
    ∃ present, newer.find? id = some present ∧ fixed present = fixed row

namespace Evolves

variable {τ : Type u} (fixed : ρ → τ) (table : Table ρ)

theorem refl : Evolves fixed table table :=
  fun _ row found => ⟨row, found, rfl⟩

theorem insert (make : Nat → ρ) (keyed : ∀ id, Keyed.key (make id) = id) :
    Evolves fixed table (table.insert make keyed) :=
  fun _ row found => ⟨row, table.find?_insert_of_some make keyed found, rfl⟩

theorem place (row : ρ) : Evolves fixed table (table.place row) :=
  fun _ old found => ⟨old, find?_place_of_some found, rfl⟩

theorem updateMany (accept : ρ → Bool) (change : ρ → ρ)
    (same : ∀ row, Keyed.key (change row) = Keyed.key row)
    (kept : ∀ row, fixed (change row) = fixed row) :
    Evolves fixed table (table.updateMany accept change same) := by
  intro id row found
  refine ⟨if accept row then change row else row, ?_, ?_⟩
  · rw [find?_updateMany, found]
    rfl
  · split_ifs
    · exact kept row
    · rfl

theorem update (id : Nat) (change : ρ → ρ)
    (same : ∀ row, Keyed.key (change row) = Keyed.key row)
    (kept : ∀ row, fixed (change row) = fixed row) :
    Evolves fixed table (table.update id change same) :=
  updateMany fixed table _ change same kept

variable {table}

theorem origin_updateMany {accept : ρ → Bool} {change : ρ → ρ}
    {same : ∀ row, Keyed.key (change row) = Keyed.key row} {row : ρ}
    (member : row ∈ table.updateMany accept change same)
    (kept : ∀ row, fixed (change row) = fixed row) :
    ∃ old ∈ table, fixed row = fixed old := by
  obtain ⟨old, oldMember, rfl⟩ := (table.mem_updateMany accept change same).mp member
  refine ⟨old, oldMember, ?_⟩
  split_ifs
  · exact kept old
  · rfl

theorem origin_update {id : Nat} {change : ρ → ρ}
    {same : ∀ row, Keyed.key (change row) = Keyed.key row} {row : ρ}
    (member : row ∈ table.update id change same)
    (kept : ∀ row, fixed (change row) = fixed row) :
    ∃ old ∈ table, fixed row = fixed old :=
  origin_updateMany fixed member kept

variable {fixed} {older middle newer : Table ρ}

theorem trans (early : Evolves fixed older middle) (late : Evolves fixed middle newer) :
    Evolves fixed older newer := by
  intro id row found
  obtain ⟨between, foundBetween, keptEarly⟩ := early id row found
  obtain ⟨present, foundPresent, keptLate⟩ := late id between foundBetween
  exact ⟨present, foundPresent, keptLate.trans keptEarly⟩

theorem isSome_find? (evolves : Evolves fixed older newer) {id : Nat}
    (present : (older.find? id).isSome) : (newer.find? id).isSome := by
  obtain ⟨row, found⟩ := Option.isSome_iff_exists.mp present
  obtain ⟨later, foundLater, _⟩ := evolves id row found
  rw [foundLater]
  rfl

/-- A row of the newer table agrees with its older self on the fixed part. -/
theorem fixed_eq (evolves : Evolves fixed older newer) {old row : ρ}
    (found : older.find? (Keyed.key row) = some old) (present : row ∈ newer) :
    fixed row = fixed old := by
  obtain ⟨later, foundLater, same⟩ := evolves _ old found
  have sameRow : later = row :=
    newer.eq_of_key_eq (newer.mem_of_find? foundLater) present (newer.key_of_find? foundLater)
  rw [← sameRow, same]

end Evolves

/-- The row is in the table, as far as its fixed part goes. -/
def Recalls {τ : Type u} (fixed : ρ → τ) (table : Table ρ) (row : ρ) : Prop :=
  ∃ later, table.find? (Keyed.key row) = some later ∧ fixed later = fixed row

theorem recalls_of_find? {τ : Type u} (fixed : ρ → τ) {table : Table ρ} {id : Nat} {row : ρ}
    (found : table.find? id = some row) : table.Recalls fixed row :=
  ⟨row, table.find?_key found, rfl⟩

theorem Recalls.of_evolves {τ : Type u} {fixed : ρ → τ} {before after : Table ρ} {row : ρ}
    (recalls : before.Recalls fixed row) (evolves : Evolves fixed before after) :
    after.Recalls fixed row := by
  obtain ⟨later, found, same⟩ := recalls
  obtain ⟨latest, foundLatest, sameLatest⟩ := evolves _ later found
  exact ⟨latest, foundLatest, sameLatest.trans same⟩

end Table

end Tchuno.Library
