import Mathlib.Data.List.Basic
import Mathlib.Data.List.Nodup
import Mathlib.Logic.Function.Basic

/-!
# Events folded into deltas, deltas merged into rows

Events are counted for their keys in an association list, in the order in which keys
first occur; the list is then merged into a store of rows by key.  What a row becomes
depends on the events of its key alone.
-/

namespace Tchuno.Library

section Accumulators

variable {Key Event Delta Row : Type} [DecidableEq Key]

/-- Change the delta of a key, which is created where it is missing. -/
def changeDelta (empty : Delta) (change : Delta → Delta) (key : Key) :
    List (Key × Delta) → List (Key × Delta)
  | [] => [(key, change empty)]
  | (other, delta) :: rest =>
      if other = key then (other, change delta) :: rest
      else (other, delta) :: changeDelta empty change key rest

/-- The deltas in a store of rows, one after the other. -/
def mergeDeltas (merge : Option Row → Delta → Row) (store : Key → Option Row)
    (deltas : List (Key × Delta)) : Key → Option Row :=
  deltas.foldl (fun rows entry =>
    Function.update rows entry.1 (some (merge (rows entry.1) entry.2))) store

theorem lookup_changeDelta (empty : Delta) (change : Delta → Delta) (key other : Key)
    (deltas : List (Key × Delta)) :
    (changeDelta empty change key deltas).lookup other =
      if other = key then some (change ((deltas.lookup key).getD empty))
      else deltas.lookup other := by
  induction deltas with
  | nil =>
      by_cases same : other = key
      · simp [changeDelta, same]
      · have different : (other == key) = false := beq_eq_false_iff_ne.mpr same
        simp [changeDelta, List.lookup_cons, different, same]
  | cons entry rest inductionHypothesis =>
      obtain ⟨name, delta⟩ := entry
      by_cases found : name = key
      · subst found
        by_cases same : other = name
        · simp [changeDelta, same]
        · have different : (other == name) = false := beq_eq_false_iff_ne.mpr same
          simp [changeDelta, List.lookup_cons, different, same]
      · rw [changeDelta, if_neg found]
        have missed : (key == name) = false := beq_eq_false_iff_ne.mpr (Ne.symm found)
        by_cases same : other = name
        · subst same
          simp [found]
        · have different : (other == name) = false := beq_eq_false_iff_ne.mpr same
          simp only [List.lookup_cons, different, missed]
          exact inductionHypothesis

theorem keys_changeDelta (empty : Delta) (change : Delta → Delta) (key : Key)
    (deltas : List (Key × Delta)) :
    (changeDelta empty change key deltas).map Prod.fst =
      if key ∈ deltas.map Prod.fst then deltas.map Prod.fst
      else deltas.map Prod.fst ++ [key] := by
  induction deltas with
  | nil =>
      simp [changeDelta]
  | cons entry rest inductionHypothesis =>
      obtain ⟨name, delta⟩ := entry
      by_cases found : name = key
      · simp [changeDelta, found]
      · rw [changeDelta, if_neg found]
        simp only [List.map_cons]
        rw [inductionHypothesis]
        by_cases member : key ∈ rest.map Prod.fst
        · rw [if_pos member, if_pos (List.mem_cons_of_mem _ member)]
        · have absent : key ∉ name :: rest.map Prod.fst := by
            intro listed
            rcases List.mem_cons.mp listed with same | later
            · exact found same.symm
            · exact member later
          rw [if_neg member, if_neg absent]
          rfl

theorem nodup_keys_changeDelta {empty : Delta} {change : Delta → Delta} {key : Key}
    {deltas : List (Key × Delta)} (nodup : (deltas.map Prod.fst).Nodup) :
    ((changeDelta empty change key deltas).map Prod.fst).Nodup := by
  rw [keys_changeDelta]
  by_cases member : key ∈ deltas.map Prod.fst
  · rw [if_pos member]
    exact nodup
  · rw [if_neg member]
    exact List.nodup_append.mpr ⟨nodup, List.nodup_singleton key, by
      intro other listed _ single same
      rw [List.mem_singleton.mp single] at same
      exact member (same ▸ listed)⟩

theorem lookup_of_fresh {key : Key} {entries : List (Key × Delta)}
    (fresh : key ∉ entries.map Prod.fst) : entries.lookup key = none := by
  apply List.lookup_eq_none_iff.mpr
  intro other listed
  apply bne_iff_ne.mpr
  intro same
  exact fresh (List.mem_map.mpr ⟨other, listed, same.symm⟩)

theorem mergeDeltas_apply (merge : Option Row → Delta → Row) (store : Key → Option Row)
    {deltas : List (Key × Delta)} (nodup : (deltas.map Prod.fst).Nodup) (key : Key) :
    mergeDeltas merge store deltas key =
      match deltas.lookup key with
      | none => store key
      | some delta => some (merge (store key) delta) := by
  induction deltas generalizing store with
  | nil =>
      rfl
  | cons entry rest inductionHypothesis =>
      obtain ⟨name, delta⟩ := entry
      have parts := List.nodup_cons.mp nodup
      have later := inductionHypothesis
        (Function.update store name (some (merge (store name) delta))) parts.2
      by_cases same : key = name
      · subst same
        have absent : rest.lookup key = none := lookup_of_fresh parts.1
        rw [absent, Function.update_self] at later
        simp only [List.lookup_cons, beq_self_eq_true]
        exact later
      · have different : (key == name) = false := beq_eq_false_iff_ne.mpr same
        rw [Function.update_of_ne same] at later
        simp only [List.lookup_cons, different]
        exact later

/-! ## Batches of events -/

variable (keyOf : Event → Option Key) (note : Event → Delta → Delta) (empty : Delta)

/-- Count one event for its key, if it has one. -/
def noteEvent (deltas : List (Key × Delta)) (event : Event) : List (Key × Delta) :=
  match keyOf event with
  | none => deltas
  | some key => changeDelta empty (note event) key deltas

/-- The events of a key, in their order. -/
def eventsOf (key : Key) (events : List Event) : List Event :=
  events.filter fun event => keyOf event = some key

theorem nodup_noteEvents {deltas : List (Key × Delta)} (events : List Event)
    (nodup : (deltas.map Prod.fst).Nodup) :
    ((events.foldl (noteEvent keyOf note empty) deltas).map Prod.fst).Nodup := by
  induction events generalizing deltas with
  | nil =>
      exact nodup
  | cons event rest inductionHypothesis =>
      apply inductionHypothesis
      unfold noteEvent
      cases keyOf event with
      | none =>
          exact nodup
      | some key =>
          exact nodup_keys_changeDelta nodup

/-- The delta of a key is made of the events of the key. -/
theorem lookup_noteEvents (key : Key) (events : List Event) (deltas : List (Key × Delta)) :
    (events.foldl (noteEvent keyOf note empty) deltas).lookup key =
      if eventsOf keyOf key events = [] then deltas.lookup key
      else some ((eventsOf keyOf key events).foldl (fun delta event => note event delta)
        ((deltas.lookup key).getD empty)) := by
  induction events generalizing deltas with
  | nil =>
      rfl
  | cons event rest inductionHypothesis =>
      rw [List.foldl_cons, inductionHypothesis]
      by_cases own : keyOf event = some key
      · have noted : (noteEvent keyOf note empty deltas event).lookup key =
            some (note event ((deltas.lookup key).getD empty)) := by
          rw [noteEvent, own]
          dsimp only
          rw [lookup_changeDelta, if_pos rfl]
        have listed : eventsOf keyOf key (event :: rest) =
            event :: eventsOf keyOf key rest := by
          simp [eventsOf, own]
        rw [noted, listed, if_neg (List.cons_ne_nil _ _)]
        by_cases last : eventsOf keyOf key rest = []
        · rw [if_pos last, last]
          rfl
        · rw [if_neg last]
          rfl
      · have noted : (noteEvent keyOf note empty deltas event).lookup key =
            deltas.lookup key := by
          rw [noteEvent]
          cases other : keyOf event with
          | none =>
              rfl
          | some name =>
              dsimp only
              rw [lookup_changeDelta, if_neg]
              rintro rfl
              exact own other
        have listed : eventsOf keyOf key (event :: rest) = eventsOf keyOf key rest := by
          simp [eventsOf, own]
        rw [noted, listed]

/-- One batch: its events counted from nothing, and the deltas merged. -/
def mergeBatch (merge : Option Row → Delta → Row) (store : Key → Option Row)
    (events : List Event) : Key → Option Row :=
  mergeDeltas merge store (events.foldl (noteEvent keyOf note empty) [])

theorem mergeBatch_apply (merge : Option Row → Delta → Row) (store : Key → Option Row)
    (events : List Event) (key : Key) :
    mergeBatch keyOf note empty merge store events key =
      if eventsOf keyOf key events = [] then store key
      else some (merge (store key) ((eventsOf keyOf key events).foldl
        (fun delta event => note event delta) empty)) := by
  have nodup := @nodup_noteEvents Key Event Delta _ keyOf note empty [] events List.nodup_nil
  rw [mergeBatch, mergeDeltas_apply merge store nodup, lookup_noteEvents]
  by_cases none_own : eventsOf keyOf key events = []
  · rw [if_pos none_own, if_pos none_own]
    rfl
  · rw [if_neg none_own, if_neg none_own]
    rfl

/-- Two ways of merging which agree on deltas of events give the same rows. -/
theorem mergeBatch_congr {merge other : Option Row → Delta → Row}
    (agree : ∀ row (events : List Event), events ≠ [] →
      merge row (events.foldl (fun delta event => note event delta) empty) =
        other row (events.foldl (fun delta event => note event delta) empty))
    (store : Key → Option Row) (events : List Event) :
    mergeBatch keyOf note empty merge store events =
      mergeBatch keyOf note empty other store events := by
  funext key
  rw [mergeBatch_apply, mergeBatch_apply]
  by_cases none_own : eventsOf keyOf key events = []
  · rw [if_pos none_own, if_pos none_own]
  · rw [if_neg none_own, if_neg none_own, agree _ _ none_own]

/-- If merging two deltas one after the other is merging the delta of all their events,
it does not matter how events are cut into batches. -/
theorem mergeBatches_apply (merge : Option Row → Delta → Row)
    (composes : ∀ row first second, first ≠ [] → second ≠ [] →
      merge (some (merge row (first.foldl (fun delta event => note event delta) empty)))
          (second.foldl (fun delta event => note event delta) empty) =
        merge row ((first ++ second).foldl (fun delta event => note event delta) empty))
    (store : Key → Option Row) (batches : List (List Event)) (key : Key) :
    batches.foldl (mergeBatch keyOf note empty merge) store key =
      mergeBatch keyOf note empty merge store batches.flatten key := by
  induction batches generalizing store with
  | nil =>
      rw [List.flatten_nil, mergeBatch_apply]
      rfl
  | cons batch rest inductionHypothesis =>
      have joined : eventsOf keyOf key (batch ++ rest.flatten) =
          eventsOf keyOf key batch ++ eventsOf keyOf key rest.flatten :=
        List.filter_append _ _
      rw [List.foldl_cons, inductionHypothesis, mergeBatch_apply, mergeBatch_apply,
        List.flatten_cons, mergeBatch_apply, joined]
      by_cases first : eventsOf keyOf key batch = []
      · rw [if_pos first, first, List.nil_append]
      · by_cases second : eventsOf keyOf key rest.flatten = []
        · rw [if_pos second, second, List.append_nil]
        · rw [if_neg second, if_neg first, composes _ _ _ first second,
            if_neg (by simp [first])]

end Accumulators

end Tchuno.Library
