import Tchuno.AdminOps.Deletion
import Tchuno.Payments.Conservation
import Tchuno.Payments.ProviderSummary

/-!
# Balances when another user is deleted

A deletion keeps the ledger entries and takes away the intents they are summed by.  So a
provider's balances stay exactly where none of the provider's intents which go with the
deleted user has any of the provider's money.
-/

namespace Tchuno.AdminOps

open Tchuno.Library Tchuno.Payments

/-! ## Tables after a deletion -/

section Cascaded

variable {ρ : Type} [Keyed ρ] {table : Table ρ} {goes : ρ → Bool} (cleared : ρ → ρ)
  (keeps : ∀ row, Keyed.key (cleared row) = Keyed.key row)

theorem mem_cascaded {row : ρ} :
    row ∈ cascaded table goes cleared keeps ↔
      ∃ old ∈ table, goes old = false ∧ row = cleared old := by
  simp only [cascaded, Table.mem_updateMany, Table.mem_deleteMany, if_true, and_assoc]

theorem isSome_find?_cascaded (id : Nat) :
    ((cascaded table goes cleared keeps).find? id).isSome =
      ((table.deleteMany goes).find? id).isSome := by
  rw [cascaded, Table.find?_updateMany, Option.isSome_map]

/-- A row which does not go can still be found. -/
theorem isSome_find?_of_stays {id : Nat} (present : (table.find? id).isSome)
    (stays : table.leadsTo goes (some id) = false) :
    ((cascaded table goes cleared keeps).find? id).isSome := by
  obtain ⟨row, found⟩ := Option.isSome_iff_exists.mp present
  rw [Table.leadsTo, Option.bind_some, found, Option.any_some] at stays
  rw [isSome_find?_cascaded, Table.find?_deleteMany, found, Option.filter_some, stays]
  rfl

/-- A reference which is not cleared names a row which stays. -/
theorem isSome_find?_of_reference {reference : Option Nat} {id : Nat}
    (names : ∀ other, reference = some other → (table.find? other).isSome)
    (left : table.setNull goes reference = some id) :
    ((cascaded table goes cleared keeps).find? id).isSome := by
  rw [isSome_find?_cascaded]
  exact (table.isSome_find?_of_setNull names left).2

end Cascaded

/-! ## The books after a deletion -/

section Books

variable {store : Store} {userId : UserId}

theorem cascadedBooks_foreignKeys (foreignKeys : store.ForeignKeys) :
    (cascadedBooks store userId).ForeignKeys where
  intent_job := by
    intro intent member
    obtain ⟨old, older, stays, rfl⟩ := (mem_cascaded (clearedIntent userId) fun _ => rfl).mp member
    rw [goesIntent, Bool.or_eq_false_iff] at stays
    exact isSome_find?_of_stays (clearedJob store userId) (fun _ => rfl)
      (foreignKeys.intent_job old older) stays.2
  transaction_intent := by
    intro transaction member intentId linked
    obtain ⟨old, older, rfl⟩ := (Table.mem_updateMany _ _ (clearedTransaction store userId)
      fun _ => rfl).mp member
    exact isSome_find?_of_reference (clearedIntent userId) (fun _ => rfl)
      (foreignKeys.transaction_intent old older) linked
  refund_intent := by
    intro refund member
    obtain ⟨old, older, stays, rfl⟩ := (mem_cascaded (clearedRefund userId) fun _ => rfl).mp member
    rw [goesRefund, Bool.or_eq_false_iff] at stays
    exact isSome_find?_of_stays (clearedIntent userId) (fun _ => rfl)
      (foreignKeys.refund_intent old older) stays.2
  refund_transaction := by
    intro refund member transactionId linked
    obtain ⟨old, older, _, rfl⟩ := (mem_cascaded (clearedRefund userId) fun _ => rfl).mp member
    rw [cascadedBooks, Table.find?_updateMany, Option.isSome_map]
    exact foreignKeys.refund_transaction old older transactionId linked
  payout_intent := by
    intro payout member intentId linked
    obtain ⟨old, older, _, rfl⟩ :=
      (mem_cascaded (clearedPayout store userId) fun _ => rfl).mp member
    exact isSome_find?_of_reference (clearedIntent userId) (fun _ => rfl)
      (foreignKeys.payout_intent old older) linked
  entry_intent := by
    intro entry member intentId linked
    obtain ⟨old, older, rfl⟩ := List.mem_map.mp member
    exact isSome_find?_of_reference (clearedIntent userId) (fun _ => rfl)
      (foreignKeys.entry_intent old older) linked
  entry_transaction := by
    intro entry member transactionId linked
    obtain ⟨old, older, rfl⟩ := List.mem_map.mp member
    rw [cascadedBooks, Table.find?_updateMany, Option.isSome_map]
    exact foreignKeys.entry_transaction old older transactionId linked

theorem cascadedBooks_consistent (consistent : store.Consistent) :
    (cascadedBooks store userId).Consistent where
  toForeignKeys := cascadedBooks_foreignKeys consistent.toForeignKeys
  intent_split := by
    intro intent member
    obtain ⟨old, older, _, rfl⟩ := (mem_cascaded (clearedIntent userId) fun _ => rfl).mp member
    exact consistent.intent_split old older
  intent_amount := by
    intro intent member
    obtain ⟨old, older, _, rfl⟩ := (mem_cascaded (clearedIntent userId) fun _ => rfl).mp member
    exact consistent.intent_amount old older
  refund_amount := by
    intro refund member
    obtain ⟨old, older, _, rfl⟩ := (mem_cascaded (clearedRefund userId) fun _ => rfl).mp member
    exact consistent.refund_amount old older
  refund_column := by
    intro refund member
    obtain ⟨old, older, _, rfl⟩ := (mem_cascaded (clearedRefund userId) fun _ => rfl).mp member
    exact consistent.refund_column old older
  payout_amount := by
    intro payout member
    obtain ⟨old, older, _, rfl⟩ :=
      (mem_cascaded (clearedPayout store userId) fun _ => rfl).mp member
    exact consistent.payout_amount old older
  entry_actor := by
    intro entry member
    obtain ⟨old, older, rfl⟩ := List.mem_map.mp member
    exact consistent.entry_actor old older

/-- The entries of an intent are those before, or none. -/
theorem intentJournal_cascaded (intentId : IntentId) :
    intentJournal (cascadedBooks store userId).ledger intentId =
      if store.intents.leadsTo (goesIntent store userId) (some intentId) = true then []
      else intentJournal store.ledger intentId := by
  have named : ∀ entry : LedgerEntry,
      decide ((clearedEntry store userId entry).paymentIntentId = some intentId) =
        (decide (entry.paymentIntentId = some intentId) &&
          !store.intents.leadsTo (goesIntent store userId) (some intentId)) := by
    intro entry
    simp only [clearedEntry, clearIntent, Table.setNull]
    by_cases names : entry.paymentIntentId = some intentId
    · cases gone : store.intents.leadsTo (goesIntent store userId) (some intentId) <;>
        simp [names, gone]
    · split_ifs <;> simp [names]
  rw [cascadedBooks, intentJournal, List.filter_map, List.map_map]
  simp only [Function.comp_def, named]
  split_ifs with gone
  · simp [gone]
  · simp only [gone, Bool.not_false, Bool.and_true]
    rfl

theorem holds_cascaded {intentId : IntentId} {account : Escrow Int}
    (holds : store.Holds intentId account) :
    ∃ after, (cascadedBooks store userId).Holds intentId after := by
  by_cases gone : store.intents.leadsTo (goesIntent store userId) (some intentId) = true
  · refine ⟨Escrow.empty, fun bucket => ?_⟩
    rw [intentJournal_cascaded, if_pos gone]
    cases bucket <;> rfl
  · refine ⟨account, fun bucket => ?_⟩
    rw [intentJournal_cascaded, if_neg gone]
    exact holds bucket

/-! ## Balances after a deletion -/

theorem computeBucketNet_cascaded (consistent : store.Consistent)
    {bucket : LedgerBalanceBucket} (ofActor : bucket.actorType = .provider)
    {intentId : IntentId}
    (stays : store.intents.leadsTo (goesIntent store userId) (some intentId) = false) :
    computeBucketNet (cascadedBooks store userId).ledger bucket
        (ofIntent .provider (some intentId)) =
      computeBucketNet store.ledger bucket (ofIntent .provider (some intentId)) := by
  rw [← ofActor, computeBucketNet_ofIntent (cascadedBooks_consistent consistent).entry_actor,
    computeBucketNet_ofIntent consistent.entry_actor, intentJournal_cascaded, stays]
  rfl

/-- The intents which are left of a provider who stays. -/
theorem providerBalance_cascaded (consistent : store.Consistent)
    {bucket : LedgerBalanceBucket} (ofActor : bucket.actorType = .provider)
    {providerId : UserId} (different : userId ≠ providerId) :
    providerBalance (cascadedBooks store userId) bucket providerId =
      (((store.intents.rows.filter fun intent =>
          intent.providerUserId = some providerId).filter fun intent =>
            ¬ goesIntent store userId intent = true).map fun intent =>
        computeBucketNet store.ledger bucket (ofIntent .provider (some intent.id))).sum := by
  have rows : (cascadedBooks store userId).intents.rows =
      (store.intents.rows.filter fun intent => !goesIntent store userId intent).map
        (clearedIntent userId) := rfl
  have sameProvider : ∀ intent : PaymentIntent,
      decide ((clearedIntent userId intent).providerUserId = some providerId) =
        decide (intent.providerUserId = some providerId) := by
    intro intent
    simp only [clearedIntent, clearUser]
    split_ifs with cleared
    · simp [cleared, different]
    · rfl
  rw [providerBalance_eq_sum, rows, List.filter_map, List.map_map, List.filter_filter,
    List.filter_filter]
  simp only [Function.comp_def, sameProvider]
  refine congrArg List.sum ?_
  have sameRows : (store.intents.rows.filter fun intent =>
      decide (intent.providerUserId = some providerId) && !goesIntent store userId intent) =
      store.intents.rows.filter fun intent =>
        decide (¬ goesIntent store userId intent = true) &&
          decide (intent.providerUserId = some providerId) := by
    refine List.filter_congr fun intent _ => ?_
    rw [Bool.and_comm]
    simp
  rw [sameRows]
  refine List.map_congr_left fun intent kept => ?_
  obtain ⟨member, counted⟩ := List.mem_filter.mp kept
  refine computeBucketNet_cascaded consistent ofActor ?_
  have found : store.intents.find? intent.id = some intent :=
    store.intents.find?_eq_some_iff.mpr ⟨member, rfl⟩
  have stays : goesIntent store userId intent = false := by
    simpa using (Bool.and_eq_true_iff.mp counted).1
  rw [Table.leadsTo, Option.bind_some]
  exact (congrArg (Option.any (goesIntent store userId)) found).trans stays

theorem providerBalance_cascaded_iff (consistent : store.Consistent)
    (holds : ∀ intentId, ∃ account, store.Holds intentId account)
    {bucket : LedgerBalanceBucket} (ofActor : bucket.actorType = .provider)
    {providerId : UserId} (different : userId ≠ providerId) :
    providerBalance (cascadedBooks store userId) bucket providerId =
        providerBalance store.toBooks bucket providerId ↔
      ∀ intent ∈ store.intents, intent.providerUserId = some providerId →
        goesIntent store userId intent = true →
          computeBucketNet store.ledger bucket (ofIntent .provider (some intent.id)) = 0 := by
  let own := store.intents.rows.filter fun intent => intent.providerUserId = some providerId
  let balance := fun intent : PaymentIntent =>
    computeBucketNet store.ledger bucket (ofIntent .provider (some intent.id))
  have parts := List.sum_map_filter_add_sum_map_filter_not
    (fun intent => goesIntent store userId intent = true) balance own
  have gone_nonneg : ∀ amount ∈ (own.filter fun intent =>
      goesIntent store userId intent = true).map balance, 0 ≤ amount := by
    intro amount made
    obtain ⟨intent, _, rfl⟩ := List.mem_map.mp made
    obtain ⟨account, held⟩ := holds intent.id
    have internal : bucket ≠ .customerExternal := by
      rintro rfl
      cases ofActor
    have nonneg := bucketBalance_nonneg account internal
    rw [← computeBucketNet_of_holds consistent held, ofActor] at nonneg
    exact nonneg
  rw [providerBalance_cascaded consistent ofActor different, providerBalance_eq_sum, ← parts,
    eq_comm, add_eq_right]
  constructor
  · intro nothing intent member provided gone
    refine List.all_zero_of_le_zero_le_of_sum_eq_zero gone_nonneg nothing ?_
    exact List.mem_map_of_mem (List.mem_filter.mpr
      ⟨List.mem_filter.mpr ⟨member, decide_eq_true provided⟩, decide_eq_true gone⟩)
  · intro empty
    refine List.sum_eq_zero fun amount made => ?_
    obtain ⟨intent, kept, rfl⟩ := List.mem_map.mp made
    obtain ⟨provided, gone⟩ := List.mem_filter.mp kept
    obtain ⟨member, ofProvider⟩ := List.mem_filter.mp provided
    exact empty intent member (of_decide_eq_true ofProvider) (of_decide_eq_true gone)

end Books

/-! ## Runs -/

/-- The operations on the store, and the deletion of users. -/
inductive AdminOperation where
  | store (operation : Operation)
  | deleteUser (targetUserId actorUserId : UserId)

def AdminOperation.perform (store : Store) : AdminOperation → Store
  | .store operation => operation.perform store
  | .deleteUser targetUserId actorUserId =>
      (AdminOps.deleteUser targetUserId actorUserId store).state

def administration : Machine Store AdminOperation where
  step := AdminOperation.perform

/-- What the summary sums is consistent, and each intent an account. -/
structure Accounted (store : Store) : Prop where
  consistent : store.Consistent
  holds : ∀ intentId, ∃ account, store.Holds intentId account

theorem deleteUser_state (targetUserId actorUserId : UserId) (store : Store) :
    (deleteUser targetUserId actorUserId store).state =
      match deleteUserGate targetUserId actorUserId store with
      | .ok user => cascadedStore store user.id
      | .error _ => store := by
  rw [deleteUser, Action.consult_bind_apply]
  cases deleteUserGate targetUserId actorUserId store <;> rfl

theorem accounted_perform {store : Store} (accounted : Accounted store)
    (operation : AdminOperation) : Accounted (operation.perform store) := by
  cases operation with
  | store operation =>
      have kept := @perform_invariant
        (fun books => ∀ intentId, ∃ account, books.Holds intentId account) ?_ store
        accounted.consistent accounted.holds operation
      · exact ⟨kept.1, kept.2⟩
      · intro books movement consistent admitted holds intentId
        obtain ⟨account, held⟩ := holds intentId
        exact holds_apply consistent admitted held
  | deleteUser targetUserId actorUserId =>
      simp only [AdminOperation.perform, deleteUser_state]
      split
      · refine ⟨cascadedBooks_consistent accounted.consistent, fun intentId => ?_⟩
        obtain ⟨account, held⟩ := accounted.holds intentId
        exact holds_cascaded held
      · exact accounted

theorem accounted_run (market : Marketplace) (operations : List AdminOperation) :
    Accounted (administration.run (Store.initial market) operations) := by
  have initial : Accounted (Store.initial market) :=
    ⟨Books.initial_consistent, Books.initial_holds⟩
  exact administration.run_preserves Accounted
    (fun _ operation accounted => accounted_perform accounted operation) initial operations

/-- No intent of the provider which goes with the user holds, has released or has paid out
any money. -/
def SparesProvider (store : Store) (targetUserId providerId : UserId) : Prop :=
  ∀ intent ∈ store.intents, intent.providerUserId = some providerId →
    goesIntent store targetUserId intent = true →
      ∀ bucket ∈ [LedgerBalanceBucket.providerHeld, .providerAvailable, .providerPaidOut],
        computeBucketNet store.ledger bucket (ofIntent .provider (some intent.id)) = 0

instance (store : Store) (targetUserId providerId : UserId) :
    Decidable (SparesProvider store targetUserId providerId) :=
  inferInstanceAs (Decidable (∀ intent ∈ store.intents, _))

/-- After every run, the deletion of another user leaves a provider's balances alone
exactly if it is refused or spares the provider. -/
theorem balances_survive_iff (market : Marketplace) (operations : List AdminOperation)
    (targetUserId actorUserId providerId : UserId) (different : targetUserId ≠ providerId) :
    let store := administration.run (Store.initial market) operations
    (getProviderSummary providerId
        (deleteUser targetUserId actorUserId store).state).balances =
        (getProviderSummary providerId store).balances ↔
      ∀ user, deleteUserGate targetUserId actorUserId store = .ok user →
        SparesProvider store targetUserId providerId := by
  intro store
  obtain ⟨consistent, holds⟩ := accounted_run market operations
  rw [deleteUser_state]
  cases gate : deleteUserGate targetUserId actorUserId store with
  | error error =>
      exact iff_of_true rfl fun user passed => nomatch passed
  | ok user =>
      have sameId : user.id = targetUserId := by
        simp only [deleteUserGate, gate_bind_eq_ok, orThrow_eq_ok] at gate
        obtain ⟨_, _, found⟩ := gate
        exact store.market.users.key_of_find? found
      have survives := fun bucket ofActor => @providerBalance_cascaded_iff store targetUserId
        consistent holds bucket ofActor providerId different
      simp only [sameId, getProviderSummary, ProviderBalances.mk.injEq, Except.ok.injEq,
        forall_eq', SparesProvider, List.forall_mem_cons]
      rw [show (cascadedStore store targetUserId).toBooks = cascadedBooks store targetUserId
        from rfl, survives .providerHeld rfl, survives .providerAvailable rfl,
        survives .providerPaidOut rfl]
      constructor
      · rintro ⟨held, available, paidOut⟩ intent member provided gone
        exact ⟨held intent member provided gone, available intent member provided gone,
          paidOut intent member provided gone, by simp⟩
      · intro spares
        exact ⟨fun intent member provided gone => (spares intent member provided gone).1,
          fun intent member provided gone => (spares intent member provided gone).2.1,
          fun intent member provided gone => (spares intent member provided gone).2.2.1⟩

/-- The client is deleted before the deposit is paid. -/
theorem unpaid_client_deleted :
    let store := administration.run (Store.initial sampleMarketplace) [.store sampleSelection]
    (getProviderSummary 1 (deleteUser 0 2 store).state).balances =
      (getProviderSummary 1 store).balances :=
  (balances_survive_iff sampleMarketplace [.store sampleSelection] 0 2 1 (by decide)).mpr
    fun _ _ => by decide +kernel

/-- The client's deposit is held for the worker when an administrator deletes the client. -/
theorem paid_client_deleted :
    let store := administration.run (Store.initial sampleMarketplace)
      [.store sampleSelection,
        .store (.payIntent 0 0 ⟨none⟩ (sampleAnswer .succeeded "charge") 2)]
    ¬ (getProviderSummary 1 (deleteUser 0 2 store).state).balances =
      (getProviderSummary 1 store).balances := by
  decide +kernel

end Tchuno.AdminOps
