import Tchuno.Payments.Growth
import Tchuno.Payments.Runs

/-!
# Unique keys

No two transactions carry one idempotency key, or one reference of one provider.
One after the other the operations keep this because `create` checks it; concurrent
clients keep it because a `create` holds the locks of its keys from the check to the
commit.
-/

namespace Tchuno.Payments

open Tchuno.Library

/-! ## Transactions one after the other -/

/-- The unique constraints which two transactions could break together. -/
def PaymentTransaction.SharesKey (left right : PaymentTransaction) : Prop :=
  left.idempotencyKey = right.idempotencyKey ∨
    left.provider = right.provider ∧ left.providerReference.isSome = true ∧
      left.providerReference = right.providerReference

def UniqueKeys (transactions : Table PaymentTransaction) : Prop :=
  ∀ left ∈ transactions, ∀ right ∈ transactions, left.SharesKey right → left = right

theorem PaymentTransaction.SharesKey.symm {left right : PaymentTransaction}
    (shares : left.SharesKey right) : right.SharesKey left := by
  rcases shares with sameKey | ⟨sameProvider, present, sameReference⟩
  · exact .inl sameKey.symm
  · exact .inr ⟨sameProvider.symm, sameReference ▸ present, sameReference.symm⟩

/-- The keys are part of what never changes. -/
theorem UniqueKeys.of_fixed {before after : Table PaymentTransaction}
    (unique : UniqueKeys before)
    (same : after.rows.map PaymentTransaction.fixed =
      before.rows.map PaymentTransaction.fixed) : UniqueKeys after := by
  intro left leftMember right rightMember shares
  obtain ⟨oldLeft, oldLeftMember, sameLeft⟩ := Table.exists_of_map_rows same leftMember
  obtain ⟨oldRight, oldRightMember, sameRight⟩ := Table.exists_of_map_rows same rightMember
  have sharesOld : oldLeft.SharesKey oldRight := by
    have sharesFixed : left.fixed.SharesKey right.fixed := shares
    rw [sameLeft, sameRight] at sharesFixed
    exact sharesFixed
  have sameOld := unique oldLeft oldLeftMember oldRight oldRightMember sharesOld
  refine after.eq_of_key_eq leftMember rightMember ?_
  have leftId : left.id = oldLeft.id := field_eq sameLeft PaymentTransaction.id fun _ => rfl
  have rightId : right.id = oldRight.id :=
    field_eq sameRight PaymentTransaction.id fun _ => rfl
  simp only [key_transaction, leftId, rightId, sameOld]

theorem UniqueKeys.place {transactions : Table PaymentTransaction}
    (unique : UniqueKeys transactions) {row : PaymentTransaction}
    (unshared : ∀ other ∈ transactions, ¬ other.SharesKey row) :
    UniqueKeys (transactions.place row) := by
  intro left leftMember right rightMember shares
  rcases Table.eq_or_mem_of_place leftMember with rfl | olderLeft
  · rcases Table.eq_or_mem_of_place rightMember with rfl | olderRight
    · rfl
    · exact absurd shares.symm (unshared right olderRight)
  · rcases Table.eq_or_mem_of_place rightMember with rfl | olderRight
    · exact absurd shares (unshared left olderLeft)
    · exact unique left olderLeft right olderRight shares

theorem admitsTransaction_iff_unshared {books : Books} {row : PaymentTransaction} :
    books.admitsTransaction row.idempotencyKey row.provider row.providerReference = true ↔
      ∀ other ∈ books.transactions, ¬ other.SharesKey row := by
  rw [Books.admitsTransaction_iff]
  refine forall₂_congr fun other _ => ?_
  rw [PaymentTransaction.SharesKey, not_or]
  refine and_congr_right fun _ => not_congr ⟨?_, ?_⟩
  · rintro ⟨sameProvider, present, sameReference⟩
    exact ⟨sameProvider, sameReference ▸ present, sameReference⟩
  · rintro ⟨sameProvider, present, sameReference⟩
    exact ⟨sameProvider, sameReference ▸ present, sameReference⟩

theorem UniqueKeys.insert {books : Books} (unique : UniqueKeys books.transactions)
    (make : TransactionId → PaymentTransaction) (keyed : ∀ id, Keyed.key (make id) = id)
    (admitted : books.admitsTransaction (make books.transactions.nextId).idempotencyKey
      (make books.transactions.nextId).provider
      (make books.transactions.nextId).providerReference = true) :
    UniqueKeys (books.transactions.insert make keyed) := by
  rw [← Table.place_eq_insert make keyed]
  exact unique.place (admitsTransaction_iff_unshared.mp admitted)

theorem Movement.uniqueKeys_apply {books : Books} {movement : Movement}
    (admitted : movement.Admitted books) (unique : UniqueKeys books.transactions) :
    UniqueKeys (movement.apply books).transactions := by
  cases movement with
  | attemptCharge intent idempotencyKey answer now =>
      exact unique.insert _ (fun _ => rfl) admitted.2
  | settleRefund order actorUserId decisionNote answer now =>
      exact unique.insert _ (fun _ => rfl) admitted.2.2.2.1
  | settlePayout payout actorUserId dto answer now =>
      exact unique.insert _ (fun _ => rfl) admitted.2.2.1
  | applyReport report =>
      refine unique.of_fixed ?_
      simp only [Movement.apply, Movement.transactions]
      exact Table.map_rows_update _ _ _ _ fun _ => rfl
  | _ =>
      exact unique

theorem reachable_uniqueKeys {store : Store}
    (reachable : payments.Reachable Store.IsInitial store) :
    UniqueKeys store.transactions :=
  (reachable_invariant
    (fun _ _ _ admitted unique => Movement.uniqueKeys_apply admitted unique)
    (show UniqueKeys Books.initial.transactions from fun _ member =>
      absurd member (Table.not_mem_empty _)) reachable).2

/-! ## Keys of concurrent clients -/

/-- No row has this identifier or key. -/
def Target.Unused (database : Database) : Target → Prop
  | .transaction transactionId => database.transactions.find? transactionId = none
  | .transactionKey idempotencyKey =>
      ∀ row ∈ database.transactions, row.idempotencyKey ≠ idempotencyKey
  | .transactionReference provider providerReference =>
      ∀ row ∈ database.transactions,
        ¬ (row.provider = provider ∧ row.providerReference = some providerReference)
  | .event eventId => database.events.find? eventId = none
  | _ => True

/-- What the unused keys depend on. -/
def keyView (database : Database) : List PaymentTransaction × Table PaymentEvent :=
  (database.transactions.rows.map PaymentTransaction.fixed, database.events)

theorem Target.Unused.of_keyView {before after : Database} {target : Target}
    (unused : target.Unused before) (same : keyView after = keyView before) :
    target.Unused after := by
  obtain ⟨sameRows, sameEvents⟩ := Prod.ext_iff.mp same
  have origin : ∀ row ∈ after.transactions, ∃ old ∈ before.transactions,
      row.fixed = old.fixed := fun row member => Table.exists_of_map_rows sameRows member
  cases target with
  | transaction transactionId =>
      refine after.transactions.find?_eq_none_iff.mpr fun row member => ?_
      obtain ⟨old, oldMember, fixed⟩ := origin row member
      have sameId : row.id = old.id := field_eq fixed PaymentTransaction.id fun _ => rfl
      rw [key_transaction, sameId]
      exact before.transactions.find?_eq_none_iff.mp unused old oldMember
  | transactionKey idempotencyKey =>
      intro row member
      obtain ⟨old, oldMember, fixed⟩ := origin row member
      rw [field_eq fixed PaymentTransaction.idempotencyKey fun _ => rfl]
      exact unused old oldMember
  | transactionReference provider providerReference =>
      intro row member
      obtain ⟨old, oldMember, fixed⟩ := origin row member
      rw [field_eq fixed PaymentTransaction.provider fun _ => rfl,
        field_eq fixed PaymentTransaction.providerReference fun _ => rfl]
      exact unused old oldMember
  | event eventId =>
      change after.events.find? eventId = none
      change after.events = before.events at sameEvents
      rw [sameEvents]
      exact unused
  | _ =>
      trivial

/-- A new transaction uses its own keys only. -/
theorem Target.Unused.placeTransaction {database : Database} {target : Target}
    (unused : target.Unused database) {row : PaymentTransaction}
    (apart : target ∉ Procedure.transactionKeys row) :
    target.Unused { database with transactions := database.transactions.place row } := by
  cases target with
  | transaction transactionId =>
      refine Table.find?_eq_none_iff _ |>.mpr fun other member => ?_
      rcases Table.eq_or_mem_of_place member with rfl | older
      · rintro rfl
        simp [Procedure.transactionKeys] at apart
      · exact database.transactions.find?_eq_none_iff.mp unused other older
  | transactionKey idempotencyKey =>
      intro other member
      rcases Table.eq_or_mem_of_place member with rfl | older
      · rintro rfl
        simp [Procedure.transactionKeys] at apart
      · exact unused other older
  | transactionReference provider providerReference =>
      intro other member
      rcases Table.eq_or_mem_of_place member with rfl | older
      · rintro ⟨rfl, sameReference⟩
        simp [Procedure.transactionKeys, sameReference] at apart
      · exact unused other older
  | _ =>
      exact unused

theorem unused_transactionKeys_iff {database : Database} {row : PaymentTransaction} :
    (∀ target ∈ Procedure.transactionKeys row, target.Unused database) ↔
      database.transactions.find? row.id = none ∧
        ∀ other ∈ database.transactions, ¬ other.SharesKey row := by
  simp only [Procedure.transactionKeys, List.mem_append, List.mem_cons, List.not_mem_nil,
    or_false, Option.mem_toList, Option.map_eq_some_iff]
  constructor
  · intro unused
    refine ⟨unused (.transaction row.id) (.inl (.inl rfl)), fun other member => ?_⟩
    rintro (sameKey | ⟨sameProvider, present, sameReference⟩)
    · exact unused (.transactionKey row.idempotencyKey) (.inl (.inr rfl)) other member sameKey
    · obtain ⟨reference, carried⟩ := Option.isSome_iff_exists.mp (sameReference ▸ present)
      exact unused (.transactionReference row.provider reference)
        (.inr ⟨reference, carried, rfl⟩) other member
        ⟨sameProvider, sameReference.trans carried⟩
  · rintro ⟨absent, unshared⟩ target ((rfl | rfl) | ⟨reference, carried, rfl⟩)
    · exact absent
    · exact fun other member sameKey => unshared other member (.inl sameKey)
    · rintro other member ⟨sameProvider, sameReference⟩
      refine unshared other member (.inr ⟨sameProvider, ?_, sameReference.trans carried.symm⟩)
      rw [sameReference]
      rfl

section Rules

variable {τ ι : Type} {discipline : Discipline τ Database Target ι} {keys : List Target}

/-- The discipline keeps these keys unused while a client has locked them. -/
def KeepsUnused (discipline : Discipline τ Database Target ι) (keys : List Target) : Prop :=
  ∀ key ∈ keys, ∀ before after, discipline.same key before after →
    key.Unused (discipline.data before) → key.Unused (discipline.data after)

theorem unused_stable (keeps : KeepsUnused discipline keys) {held : Set Target}
    (locked : ∀ key ∈ keys, key ∈ held) :
    discipline.Stable held fun state => ∀ key ∈ keys, key.Unused (discipline.data state) :=
  fun before after _ same _ unused key member =>
    keeps key member before after (same key (locked key member)) (unused key member)

/-- A `create` knows until its commit that its keys are unused. -/
theorem Procedure.safe_create {client : ι}
    {finish : Except ApiError Unit → Standing τ Database Target → Prop}
    {standing : Standing τ Database Target} {target : Target}
    {admits : Database → Bool} {place : Database → Database}
    (keeps : KeepsUnused discipline keys)
    (stable : discipline.Stable standing.held standing.know)
    (unused : ∀ state, discipline.invariant state → standing.know state →
      admits (standing.pending (discipline.data state)) = true →
      ∀ key ∈ keys, key.Unused (discipline.data state))
    (created : ∀ state held, standing.held ⊆ held → (∀ key ∈ keys, key ∈ held) →
      (discipline.Stable held fun later =>
        standing.know later ∧ ∀ key ∈ keys, key.Unused (discipline.data later)) →
      finish (.ok ())
        ⟨some (discipline.data state), held, place ∘ standing.pending, fun later =>
          standing.know later ∧ ∀ key ∈ keys, key.Unused (discipline.data later)⟩)
    (refused : ∀ state held, discipline.invariant state → standing.know state →
      discipline.allowed client standing.seen (.look target) (discipline.data state) →
      admits (standing.pending (discipline.data state)) = false → standing.held ⊆ held →
      finish (.error (.database "P2002"))
        ⟨some (discipline.data state), held, standing.pending, standing.know⟩) :
    discipline.Safe client finish standing (Procedure.create keys target admits place) := by
  refine Discipline.safe_lockAll_bind stable fun held larger locked => ?_
  refine Discipline.safe_consult_bind fun state invariant knows allowed => ?_
  have stableHeld := stable.mono larger
  simp only
  cases admitted : admits (standing.pending (discipline.data state)) with
  | true =>
      have stableUnused := stableHeld.and (unused_stable keeps locked)
      refine ⟨_, ⟨knows, unused state invariant knows admitted⟩, stableUnused, ?_⟩
      exact created state held larger locked stableUnused
  | false =>
      refine ⟨standing.know, knows, stableHeld, ?_⟩
      exact refused state held invariant knows allowed admitted larger

end Rules

end Tchuno.Payments
