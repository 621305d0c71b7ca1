import Mathlib.Data.List.Basic
import Mathlib.Logic.Function.Basic
import Tchuno.Library.Machine

/-!
# Rooms

Clients are numbered as they connect, and join rooms.  What is emitted to a room is
received by whoever is in it at that moment.
-/

namespace Tchuno.Library

universe u v

/-- The rooms of every client, and what it has received so far. -/
structure Broker (Room : Type u) (Event : Type v) where
  next : Nat
  rooms : Nat → List Room
  received : Nat → List Event

namespace Broker

variable {Room : Type u} {Event : Type v}

inductive Signal (Room : Type u) (Event : Type v) where
  | connect
  | join (client : Nat) (room : Room)
  | disconnect (client : Nat)
  | emit (room : Room) (event : Event)

/-- The signal changes the rooms of the client. -/
def Signal.Moves (client : Nat) : Signal Room Event → Prop
  | .join other _ | .disconnect other => other = client
  | .connect | .emit .. => False

/-- Nobody has connected yet. -/
def initial : Broker Room Event where
  next := 0
  rooms := fun _ => []
  received := fun _ => []

/-- Who has not connected yet is in no room and has received nothing. -/
def Numbered (broker : Broker Room Event) : Prop :=
  ∀ client, broker.next ≤ client → broker.rooms client = [] ∧ broker.received client = []

theorem numbered_initial : (initial : Broker Room Event).Numbered :=
  fun _ _ => ⟨rfl, rfl⟩

variable [DecidableEq Room]

def handle (broker : Broker Room Event) : Signal Room Event → Broker Room Event
  | .connect => { broker with next := broker.next + 1 }
  | .join client room =>
      { broker with
        rooms := Function.update broker.rooms client (room :: broker.rooms client) }
  | .disconnect client => { broker with rooms := Function.update broker.rooms client [] }
  | .emit room event =>
      { broker with
        received := fun client =>
          if room ∈ broker.rooms client then broker.received client ++ [event]
          else broker.received client }

/-- The broker as a machine over its signals. -/
def machine : Machine (Broker Room Event) (Signal Room Event) where
  step := handle

/-- The events among the signals which a client in these rooms receives. -/
def heard (rooms : List Room) (signals : List (Signal Room Event)) : List Event :=
  signals.filterMap fun signal =>
    match signal with
    | .emit room event => if room ∈ rooms then some event else none
    | _ => none

section Heard

variable {rooms : List Room} {signals : List (Signal Room Event)}

@[simp]
theorem heard_nil : heard rooms ([] : List (Signal Room Event)) = [] := rfl

@[simp]
theorem heard_emit_of_mem {room : Room} (inside : room ∈ rooms) (event : Event) :
    heard rooms (.emit room event :: signals) = event :: heard rooms signals := by
  simp [heard, inside]

@[simp]
theorem heard_emit_of_notMem {room : Room} (outside : room ∉ rooms) (event : Event) :
    heard rooms (.emit room event :: signals) = heard rooms signals := by
  simp [heard, outside]

end Heard

section Runs

variable {client : Nat} {broker : Broker Room Event} {signals : List (Signal Room Event)}

theorem rooms_handle {signal : Signal Room Event} (still : ¬ signal.Moves client) :
    (broker.handle signal).rooms client = broker.rooms client := by
  cases signal with
  | connect =>
      rfl
  | emit room event =>
      rfl
  | join other room =>
      exact Function.update_of_ne (Ne.symm still) _ _
  | disconnect other =>
      exact Function.update_of_ne (Ne.symm still) _ _

theorem received_handle (signal : Signal Room Event) :
    (broker.handle signal).received client =
      broker.received client ++ heard (broker.rooms client) [signal] := by
  cases signal with
  | emit room event =>
      by_cases inside : room ∈ broker.rooms client <;> simp [handle, inside]
  | _ =>
      simp [handle, heard]

/-- A client which stays where it is receives exactly what is emitted there. -/
theorem run_of_still (still : ∀ signal ∈ signals, ¬ signal.Moves client) :
    (machine.run broker signals).rooms client = broker.rooms client ∧
      (machine.run broker signals).received client =
        broker.received client ++ heard (broker.rooms client) signals := by
  induction signals generalizing broker with
  | nil =>
      simp
  | cons signal rest inductionHypothesis =>
      obtain ⟨first, later⟩ := List.forall_mem_cons.mp still
      obtain ⟨sameRooms, allHeard⟩ := @inductionHypothesis (broker.handle signal) later
      rw [Machine.run_cons]
      rw [rooms_handle first] at sameRooms allHeard
      refine ⟨sameRooms, allHeard.trans ?_⟩
      rw [received_handle, List.append_assoc]
      congr 1
      exact (@List.filterMap_append _ _ [signal] rest _).symm

end Runs

/-! ## Clients to come -/

/-- Only who has connected may join a room. -/
def Signal.Known (broker : Broker Room Event) : Signal Room Event → Prop
  | .join client _ => client < broker.next
  | _ => True

theorem Numbered.handle {broker : Broker Room Event} (numbered : broker.Numbered)
    {signal : Signal Room Event} (known : signal.Known broker) :
    (broker.handle signal).Numbered := by
  intro client absent
  cases signal with
  | connect =>
      exact numbered client (Nat.le_of_succ_le absent)
  | join other room =>
      have different : client ≠ other := by
        intro same
        exact Nat.not_lt.mpr absent (same ▸ known)
      obtain ⟨noRooms, nothing⟩ := numbered client absent
      exact ⟨(Function.update_of_ne different _ _).trans noRooms, nothing⟩
  | disconnect other =>
      obtain ⟨noRooms, nothing⟩ := numbered client absent
      by_cases same : client = other
      · rw [same] at nothing ⊢
        exact ⟨Function.update_self _ _ _, nothing⟩
      · exact ⟨(Function.update_of_ne same _ _).trans noRooms, nothing⟩
  | emit room event =>
      obtain ⟨noRooms, nothing⟩ := numbered client absent
      refine ⟨noRooms, ?_⟩
      simp [Broker.handle, noRooms, nothing]

theorem Numbered.run {broker : Broker Room Event} (numbered : broker.Numbered)
    {signals : List (Signal Room Event)}
    (known : machine.Along (fun broker signal => signal.Known broker) broker signals) :
    (machine.run broker signals).Numbered :=
  machine.run_invariant (fun _ _ numbered known => numbered.handle known) numbered known

end Broker

end Tchuno.Library
