import Mathlib.Algebra.Ring.Int.Defs
import Tchuno.Library.Accumulators

/-!
# Records

Objects used as maps: keys with values, in the order in which the keys were added.
-/

namespace Tchuno.Library

/-- Keys, each with one value. -/
structure Record (Key Value : Type) where
  entries : List (Key × Value)
  distinct : (entries.map Prod.fst).Nodup

namespace Record

variable {Key Value Other : Type} [DecidableEq Key]

def empty : Record Key Value where
  entries := []
  distinct := List.nodup_nil

def get? (record : Record Key Value) (key : Key) : Option Value :=
  record.entries.lookup key

/-- Change the value of a key, which is created where it is missing. -/
def modify (record : Record Key Value) (missing : Value) (key : Key) (change : Value → Value) :
    Record Key Value where
  entries := changeDelta missing change key record.entries
  distinct := nodup_keys_changeDelta record.distinct

def erase (record : Record Key Value) (key : Key) : Record Key Value where
  entries := record.entries.filter fun entry => entry.1 ≠ key
  distinct := record.distinct.sublist (List.filter_sublist.map Prod.fst)

/-- Sum of a quantity over the values. -/
def total (record : Record Key Value) (weight : Value → Int) : Int :=
  (record.entries.map fun entry => weight entry.2).sum

/-- Go through the entries of `source` and change the values of the keys which `step`
accepts. -/
def absorb (missing : Value) (step : Other → Option (Value → Value))
    (record : Record Key Value) (source : Record Key Other) : Record Key Value :=
  source.entries.foldl (fun record entry =>
    match step entry.2 with
    | some change => record.modify missing entry.1 change
    | none => record) record

/-- The entries of `source` which `step` accepts, with new values. -/
def collect (missing : Value) (step : Other → Option Value) (source : Record Key Other) :
    Record Key Value :=
  empty.absorb missing (fun value => (step value).map fun made _ => made) source

@[simp]
theorem get?_empty (key : Key) : (empty : Record Key Value).get? key = none := rfl

theorem get?_modify (record : Record Key Value) (missing : Value) (key other : Key)
    (change : Value → Value) :
    (record.modify missing key change).get? other =
      if other = key then some (change ((record.get? key).getD missing))
      else record.get? other :=
  lookup_changeDelta missing change key other record.entries

private theorem get?_foldl (missing : Value) (step : Other → Option (Value → Value))
    (entries : List (Key × Other)) (distinct : (entries.map Prod.fst).Nodup)
    (record : Record Key Value) (key : Key) :
    (entries.foldl (fun record entry =>
        match step entry.2 with
        | some change => record.modify missing entry.1 change
        | none => record) record).get? key =
      match (entries.lookup key).bind step with
      | some change => some (change ((record.get? key).getD missing))
      | none => record.get? key := by
  induction entries generalizing record with
  | nil =>
      rfl
  | cons entry rest inductionHypothesis =>
      obtain ⟨name, value⟩ := entry
      obtain ⟨fresh, distinctRest⟩ := List.nodup_cons.mp distinct
      rw [List.foldl_cons, inductionHypothesis distinctRest]
      by_cases same : key = name
      · subst same
        have absent : rest.lookup key = none := lookup_of_fresh fresh
        cases accepted : step value with
        | none =>
            simp [absent, accepted]
        | some change =>
            simp [absent, accepted, get?_modify]
      · have missed : (key == name) = false := beq_eq_false_iff_ne.mpr same
        cases accepted : step value with
        | none =>
            simp [List.lookup_cons, missed]
        | some change =>
            simp [List.lookup_cons, missed, get?_modify, same]

theorem get?_absorb (missing : Value) (step : Other → Option (Value → Value))
    (record : Record Key Value) (source : Record Key Other) (key : Key) :
    (record.absorb missing step source).get? key =
      match (source.get? key).bind step with
      | some change => some (change ((record.get? key).getD missing))
      | none => record.get? key :=
  get?_foldl missing step source.entries source.distinct record key

theorem get?_collect (missing : Value) (step : Other → Option Value)
    (source : Record Key Other) (key : Key) :
    (collect missing step source).get? key = (source.get? key).bind step := by
  rw [collect, get?_absorb]
  cases found : source.get? key with
  | none =>
      rfl
  | some value =>
      cases made : step value <;> simp [made]

/-! ## Erasing and adding up -/

theorem get?_erase (record : Record Key Value) (key other : Key) :
    (record.erase key).get? other = if other = key then none else record.get? other := by
  unfold get? erase
  dsimp only
  induction record.entries with
  | nil =>
      simp
  | cons entry rest inductionHypothesis =>
      obtain ⟨name, value⟩ := entry
      by_cases erased : name = key
      · subst erased
        rw [List.filter_cons_of_neg (by simp), inductionHypothesis]
        by_cases same : other = name
        · simp [same]
        · have missed : (other == name) = false := beq_eq_false_iff_ne.mpr same
          simp [same, List.lookup_cons, missed]
      · rw [List.filter_cons_of_pos (by simpa using erased)]
        by_cases same : other = name
        · subst same
          simp [erased]
        · have missed : (other == name) = false := beq_eq_false_iff_ne.mpr same
          simp only [List.lookup_cons, missed]
          exact inductionHypothesis

private theorem sum_changeDelta (weight : Value → Int) (missing : Value)
    (change : Value → Value) (key : Key) (entries : List (Key × Value)) :
    ((changeDelta missing change key entries).map fun entry => weight entry.2).sum +
        ((entries.lookup key).map weight).getD 0 =
      (entries.map fun entry => weight entry.2).sum +
        weight (change ((entries.lookup key).getD missing)) := by
  induction entries with
  | nil =>
      simp [changeDelta]
  | cons entry rest inductionHypothesis =>
      obtain ⟨name, value⟩ := entry
      by_cases same : name = key
      · subst same
        simp [changeDelta]
        omega
      · have missed : (key == name) = false := beq_eq_false_iff_ne.mpr (Ne.symm same)
        rw [changeDelta, if_neg same]
        simp only [List.map_cons, List.sum_cons, List.lookup_cons, missed]
        omega

theorem total_modify (weight : Value → Int) (record : Record Key Value) (missing : Value)
    (key : Key) (change : Value → Value) :
    (record.modify missing key change).total weight +
        ((record.get? key).map weight).getD 0 =
      record.total weight + weight (change ((record.get? key).getD missing)) :=
  sum_changeDelta weight missing change key record.entries

private theorem sum_filter_ne (weight : Value → Int) (key : Key)
    {entries : List (Key × Value)} (distinct : (entries.map Prod.fst).Nodup) :
    ((entries.filter fun entry => entry.1 ≠ key).map fun entry => weight entry.2).sum +
        ((entries.lookup key).map weight).getD 0 =
      (entries.map fun entry => weight entry.2).sum := by
  induction entries with
  | nil =>
      simp
  | cons entry rest inductionHypothesis =>
      obtain ⟨name, value⟩ := entry
      obtain ⟨fresh, distinctRest⟩ := List.nodup_cons.mp distinct
      have later := inductionHypothesis distinctRest
      by_cases same : name = key
      · subst same
        rw [lookup_of_fresh fresh] at later
        rw [List.filter_cons_of_neg (by simp)]
        simp only [List.map_cons, List.sum_cons, List.lookup_cons, beq_self_eq_true,
          Option.map_some, Option.getD_some]
        simp only [Option.map_none, Option.getD_none] at later
        omega
      · have missed : (key == name) = false := beq_eq_false_iff_ne.mpr (Ne.symm same)
        rw [List.filter_cons_of_pos (by simpa using same)]
        simp only [List.map_cons, List.sum_cons, List.lookup_cons, missed]
        omega

theorem total_erase (weight : Value → Int) (record : Record Key Value) (key : Key) :
    (record.erase key).total weight + ((record.get? key).map weight).getD 0 =
      record.total weight :=
  sum_filter_ne weight key record.distinct

end Record

end Tchuno.Library
