import Tchuno.Payments.Consistency

/-!
# From movements to runs of the services

A property of the books is followed through a run of operations by following it
through their movements.  A property that some movements break is equivalent,
along a run, to the condition that none of those movements was made.
-/

namespace Tchuno.Payments

open Tchuno.Library

/-! ## Invariants -/

section Invariants

variable {invariant : Books → Prop}
  (preserved : ∀ books movement, books.Consistent → Movement.Admitted books movement →
    invariant books → invariant (Movement.apply books movement))

include preserved

theorem perform_invariant {store : Store} (consistent : store.Consistent)
    (holds : invariant store.toBooks) (operation : Operation) :
    (operation.perform store).Consistent ∧ invariant (operation.perform store).toBooks := by
  rw [perform_books consistent.toForeignKeys operation]
  refine @Machine.run_invariant _ _ bookkeeping
    (fun books => books.Consistent ∧ invariant books) Movement.Admitted ?_ _
    ⟨consistent, holds⟩ _ (movements_admitted store operation)
  rintro books movement ⟨consistentBefore, holdsBefore⟩ admitted
  exact ⟨Movement.consistent_apply consistentBefore admitted,
    preserved books movement consistentBefore admitted holdsBefore⟩

/-- What every movement preserves holds in every reachable store. -/
theorem reachable_invariant (base : invariant Books.initial) {store : Store}
    (reachable : payments.Reachable Store.IsInitial store) :
    store.Consistent ∧ invariant store.toBooks := by
  refine @Machine.Reachable.invariant _ _ payments Store.IsInitial
    (fun store => store.Consistent ∧ invariant store.toBooks) ?_ ?_ store reachable
  · rintro _ ⟨market, rfl⟩
    exact ⟨Books.initial_consistent, base⟩
  · rintro store operation ⟨consistent, holds⟩
    exact perform_invariant preserved consistent holds operation

end Invariants

theorem perform_consistent {store : Store} (consistent : store.Consistent)
    (operation : Operation) : (operation.perform store).Consistent :=
  (@perform_invariant (fun _ => True) (fun _ _ _ _ _ => trivial) store consistent trivial
    operation).1

theorem reachable_consistent {store : Store}
    (reachable : payments.Reachable Store.IsInitial store) : store.Consistent :=
  (@reachable_invariant (fun _ => True) (fun _ _ _ _ _ => trivial) trivial store reachable).1

/-- The run of a list of operations from the beginning. -/
theorem reachable_run (market : Marketplace) (operations : List Operation) :
    payments.Reachable Store.IsInitial (payments.run (Store.initial market) operations) :=
  (Machine.Reachable.start ⟨market, rfl⟩).run operations

/-! ## Conditions -/

/-- Movements which only prepare the next one of the same operation. -/
def Movement.Preparatory : Movement → Prop
  | .attemptCharge .. => True
  | .openRefund .. => True
  | _ => False

theorem movements_preparatory (store : Store) (operation : Operation) :
    ∀ movement ∈ (operation.movements store).dropLast, movement.Preparatory := by
  intro movement member
  cases operation with
  | payIntent intentId actorUserId dto answer now =>
      simp only [Operation.movements, chargeMovements] at member
      split at member
      · split_ifs at member
        · obtain rfl := List.mem_singleton.mp member
          trivial
        · simp at member
      · simp at member
  | adminCreateRefund actorUserId dto answer now =>
      simp only [Operation.movements, refundMovements] at member
      split at member
      · split at member
        · simp at member
        · split_ifs at member
          · obtain rfl := List.mem_singleton.mp member
            trivial
          · simp at member
      · simp at member
  | selectProposal policy requestId proposalId actorUserId depositPercent now =>
      simp only [Operation.movements, selectionMovements] at member
      split at member
      · simp at member
      · split at member
        · simp at member
        · split_ifs at member <;> simp at member
  | handleWebhook environment provider dto headers now =>
      simp only [Operation.movements] at member
      cases report : webhookReport? store environment provider dto headers now <;>
        simp [report] at member
  | reconcileTransaction transactionId answer now =>
      simp only [Operation.movements] at member
      cases report : reconciliationReport? store transactionId answer now <;>
        simp [report] at member
  | _ =>
      simp only [Operation.movements, intentMovements, refundMovements, payoutMovements]
        at member
      repeat' split at member
      all_goals simp at member

theorem Movement.Preparatory.silent {movement : Movement}
    (preparatory : movement.Preparatory) (books : Books) : movement.entries books = [] := by
  cases movement <;> first | rfl | exact absurd preparatory (by simp [Preparatory])

/-- The ledger only grows, and by the entries of at most one movement. -/
theorem perform_ledger {store : Store} (consistent : store.Consistent)
    (operation : Operation) :
    (operation.perform store).ledger = store.ledger ∨
      ∃ books movement, books.Consistent ∧ Movement.Admitted books movement ∧
        books.ledger = store.ledger ∧
        (operation.perform store).ledger = store.ledger ++ movement.entries books := by
  rw [perform_books consistent.toForeignKeys operation]
  have admitted := movements_admitted store operation
  have preparatory := movements_preparatory store operation
  generalize operation.movements store = movements at admitted preparatory ⊢
  generalize store.toBooks = books at consistent admitted ⊢
  induction movements generalizing books with
  | nil =>
      exact .inl rfl
  | cons movement rest inductionHypothesis =>
      cases rest with
      | nil =>
          exact .inr ⟨books, movement, consistent, admitted.1, rfl, rfl⟩
      | cons next others =>
          have silent := (preparatory movement (by simp)).silent books
          have sameLedger : (Movement.apply books movement).ledger = books.ledger := by
            rw [Movement.apply_of_silent books movement silent]
          rw [Machine.run_cons, ← sameLedger]
          exact inductionHypothesis (fun late member => preparatory late (by simp [member]))
            (Movement.apply books movement)
            (Movement.consistent_apply consistent admitted.1) admitted.2

/-- Every movement of the operation meets the condition in the books it is made
in. -/
def Operation.Meets (condition : Books → Movement → Prop) (store : Store)
    (operation : Operation) : Prop :=
  bookkeeping.Along condition store.toBooks (operation.movements store)

section Conditions

variable {invariant property : Books → Prop} {condition : Books → Movement → Prop}
  (preserved : ∀ books movement, books.Consistent → Movement.Admitted books movement →
    invariant books → invariant (Movement.apply books movement))
  (exact_movement : ∀ books movement, books.Consistent →
    Movement.Admitted books movement → invariant books → property books →
    (property (Movement.apply books movement) ↔ condition books movement))
  (preparatory_meets : ∀ books movement, movement.Preparatory → condition books movement)

include preserved exact_movement preparatory_meets

theorem perform_iff_meets {store : Store} (consistent : store.Consistent)
    (holds : invariant store.toBooks) (before : property store.toBooks)
    (operation : Operation) :
    property (operation.perform store).toBooks ↔ operation.Meets condition store := by
  have kept := @Machine.run_iff_along _ _ bookkeeping
    (fun books => (books.Consistent ∧ invariant books) ∧ property books)
    Movement.Admitted condition Movement.Preparatory
    (by
      rintro books movement ⟨⟨consistentBefore, holdsBefore⟩, beforeMovement⟩ admitted
      rw [← exact_movement books movement consistentBefore admitted holdsBefore
        beforeMovement]
      exact and_iff_right ⟨Movement.consistent_apply consistentBefore admitted,
        preserved books movement consistentBefore admitted holdsBefore⟩)
    preparatory_meets store.toBooks ⟨⟨consistent, holds⟩, before⟩
    (operation.movements store) (movements_admitted store operation)
    (movements_preparatory store operation)
  have after := perform_invariant preserved consistent holds operation
  rw [perform_books consistent.toForeignKeys operation] at after ⊢
  rw [Operation.Meets, ← kept]
  exact (and_iff_right after).symm

/-- Along a run the property survives exactly as long as every movement meets
the condition. -/
theorem along_iff_meets (invariant_base : invariant Books.initial)
    (property_base : property Books.initial) (market : Marketplace)
    (operations : List Operation) :
    payments.Along (fun store operation => property (operation.perform store).toBooks)
        (Store.initial market) operations ↔
      payments.Along (fun store operation => operation.Meets condition store)
        (Store.initial market) operations := by
  refine @Machine.along_iff_along _ _ payments
    (fun store => (store.Consistent ∧ invariant store.toBooks) ∧ property store.toBooks)
    _ _ ?_ ?_ _ ⟨⟨Books.initial_consistent, invariant_base⟩, property_base⟩ operations
  · rintro store operation ⟨⟨consistent, holds⟩, before⟩
    exact perform_iff_meets preserved exact_movement preparatory_meets consistent holds
      before operation
  · rintro store operation ⟨⟨consistent, holds⟩, before⟩ met
    exact ⟨perform_invariant preserved consistent holds operation,
      (perform_iff_meets preserved exact_movement preparatory_meets consistent holds
        before operation).mpr met⟩

end Conditions

/-! ## Conditions which are enough -/

/-- A condition under which every movement keeps an invariant keeps it along a run. -/
theorem along_of_meets {invariant : Books → Prop} {condition : Books → Movement → Prop}
    (preserved : ∀ books movement, books.Consistent → Movement.Admitted books movement →
      invariant books → condition books movement → invariant (Movement.apply books movement))
    (invariant_base : invariant Books.initial) {market : Marketplace}
    {operations : List Operation}
    (along : payments.Along (fun store operation => operation.Meets condition store)
      (Store.initial market) operations) :
    payments.Along (fun store operation => invariant (operation.perform store).toBooks)
      (Store.initial market) operations := by
  have kept : ∀ store operation, store.Consistent ∧ invariant store.toBooks →
      Operation.Meets condition store operation →
        (operation.perform store).Consistent ∧ invariant (operation.perform store).toBooks := by
    intro store operation holds met
    rw [perform_books holds.1.toForeignKeys operation]
    refine @Machine.run_invariant _ _ bookkeeping
      (fun books => books.Consistent ∧ invariant books)
      (fun books movement => Movement.Admitted books movement ∧ condition books movement)
      ?_ _ holds _ ((movements_admitted store operation).and met)
    rintro books movement ⟨consistent, before⟩ ⟨admitted, allowed⟩
    exact ⟨Movement.consistent_apply consistent admitted,
      preserved books movement consistent admitted before allowed⟩
  refine @Machine.Along.of_invariant _ _ payments
    (fun store => store.Consistent ∧ invariant store.toBooks) _ _ ?_ kept _
    ⟨Books.initial_consistent, invariant_base⟩ _ along
  exact fun store operation holds met => (kept store operation holds met).2

end Tchuno.Payments
