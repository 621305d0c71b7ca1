import Mathlib.Algebra.Order.Floor.Div
import Mathlib.Data.Prod.Lex
import Tchuno.Library.Rotation
import Tchuno.Payments.Reconciliation
import Tchuno.Payments.Runs

/-!
# Reconciliation over many runs

A charge the gateway still calls pending is written, so that it moves behind the others.
A charge whose query throws is not: it keeps its place at the front, and the next run
spends another query on it.
-/

namespace Tchuno.Payments

open Tchuno.Library

/-! ## Runs -/

/-- Runs with one configuration: when each starts, what happens to its queries, and the
store it finds. -/
structure ReconciliationSchedule where
  environment : ReconciliationEnvironment
  input : PendingReconciliationInput
  startedAt : Nat → Time
  turns : Nat → Nat → QueryTurn
  store : Nat → Store

/-- The gateway calls the transaction pending, or the query throws. -/
def GatewayReply.IsPendingOrThrows : GatewayReply → Prop
  | .answered answer => answer.status = .pending
  | .threw _ => True

def GatewayReply.throws : GatewayReply → Bool
  | .answered _ => false
  | .threw _ => true

namespace ReconciliationSchedule

variable (schedule : ReconciliationSchedule)

def limit : Nat :=
  resolvePendingReconciliationLimit schedule.environment.batchSize schedule.input.limit

def minAge : Nat :=
  resolvePendingReconciliationMinAgeMinutes schedule.environment.minAgeMinutes
    schedule.input.minAgeMinutes * 60000

def providers : List PaymentProvider :=
  resolvePendingReconciliationProviders schedule.environment.providers

/-- The stale pending charges a run finds, in the order in which it takes them. -/
def staleAt (run : Nat) : List PaymentTransaction :=
  stalePendingCharges schedule.providers (schedule.startedAt run - schedule.minAge)
    (schedule.store run)

def staleIds (run : Nat) : List TransactionId :=
  (schedule.staleAt run).map PaymentTransaction.id

/-- The transactions a run scans. -/
def scanned (run : Nat) : List TransactionId :=
  ((schedule.staleAt run).take schedule.limit).map PaymentTransaction.id

/-- The store a run leaves. -/
def after (run : Nat) : Store :=
  (reconcilePendingChargeTransactions schedule.environment schedule.input
    (schedule.startedAt run) (schedule.turns run) (schedule.store run)).state

/-- As many runs as the stale charges of the first fill. -/
def rounds : Nat :=
  (schedule.staleAt 0).length ⌈/⌉ schedule.limit

/-- A query leaves its transaction ahead of the one which was written last: it throws, or,
in the first run with a minimum age of 0, its reply is applied in the very millisecond in
which that one was written. -/
def setsBack (run index : Nat) : Bool :=
  (schedule.turns run index).reply.throws ||
    run = 0 && match (schedule.staleAt 0)[index]?, (schedule.staleAt 0).getLast? with
      | some row, some newest =>
          toLex ((schedule.turns 0 index).appliedAt, row.id) ≤ newest.stamp
      | _, _ => false

/-- The queries which set the queue back in the runs before the last. -/
def setbacks : Nat :=
  ∑ run ∈ Finset.range (schedule.rounds - 1),
    ((Finset.range schedule.limit).filter fun index => schedule.setsBack run index).card

end ReconciliationSchedule

/-- The runs follow each other with more than the minimum age in between, and only they
write the charges which are stale at the start; no other charge becomes stale. -/
structure ReconciliationRuns extends ReconciliationSchedule where
  foreignKeys : ∀ run, (store run).ForeignKeys
  pending_or_throws : ∀ run index, (turns run index).reply.IsPendingOrThrows
  forward : ∀ run index, startedAt run ≤ (turns run index).appliedAt
  apart : ∀ run index,
    (turns run index).appliedAt + toReconciliationSchedule.minAge < startedAt (run + 1)
  kept : ∀ run, ∀ id ∈ toReconciliationSchedule.staleIds 0,
    (store (run + 1)).transactions.find? id =
      (toReconciliationSchedule.after run).transactions.find? id
  no_others : ∀ run, ∀ id ∈ toReconciliationSchedule.staleIds (run + 1),
    id ∈ toReconciliationSchedule.staleIds 0

/-! ## The selection -/

section Selection

variable {providers : List PaymentProvider} {staleBefore : Time} {store : Store}

theorem mem_stalePendingCharges {row : PaymentTransaction} :
    row ∈ stalePendingCharges providers staleBefore store ↔
      row ∈ store.transactions ∧ row.isStalePending providers staleBefore = true := by
  rw [stalePendingCharges, List.mem_insertionSort]
  exact List.mem_filter

theorem mem_map_stalePendingCharges {id : TransactionId} :
    id ∈ (stalePendingCharges providers staleBefore store).map PaymentTransaction.id ↔
      ∃ row, store.transactions.find? id = some row ∧
        row.isStalePending providers staleBefore = true := by
  constructor
  · intro member
    obtain ⟨row, stale, rfl⟩ := List.mem_map.mp member
    obtain ⟨stored, accepted⟩ := mem_stalePendingCharges.mp stale
    exact ⟨row, (store.transactions.find?_eq_some_iff).mpr ⟨stored, rfl⟩, accepted⟩
  · intro found
    obtain ⟨row, stored, accepted⟩ := found
    obtain ⟨member, sameId⟩ := store.transactions.find?_eq_some_iff.mp stored
    exact List.mem_map.mpr ⟨row, mem_stalePendingCharges.mpr ⟨member, accepted⟩, sameId⟩

theorem nodup_stalePendingCharges :
    ((stalePendingCharges providers staleBefore store).map PaymentTransaction.id).Nodup := by
  have sorted : (stalePendingCharges providers staleBefore store).Perm
      (store.transactions.findMany (PaymentTransaction.isStalePending providers staleBefore)) :=
    List.perm_insertionSort _ _
  have kept : (store.transactions.findMany
      (PaymentTransaction.isStalePending providers staleBefore)).Sublist
        store.transactions.rows := List.filter_sublist
  exact (sorted.map _).nodup_iff.mpr ((kept.map _).nodup store.transactions.distinct)

theorem pairwise_stalePendingCharges :
    (stalePendingCharges providers staleBefore store).Pairwise
      fun left right => left.stamp ≤ right.stamp :=
  List.pairwise_insertionSort _ _

end Selection

/-! ## One run -/

namespace ReconciliationRuns

variable (runs : ReconciliationRuns)

theorem after_eq (run : Nat) : ∃ summary, runs.after run =
    (reconcileEach (runs.scanned run) (runs.turns run) summary (runs.store run)).state := by
  unfold ReconciliationSchedule.after reconcilePendingChargeTransactions
  rw [Action.inspect_bind_apply]
  exact ⟨_, rfl⟩

theorem nodup_staleIds (run : Nat) : (runs.staleIds run).Nodup :=
  nodup_stalePendingCharges

theorem nodup_scanned (run : Nat) : (runs.scanned run).Nodup := by
  have taken : (runs.scanned run).Sublist (runs.staleIds run) :=
    (List.take_sublist _ _).map _
  exact taken.nodup (runs.nodup_staleIds run)

/-- A transaction which is not scanned keeps its row. -/
theorem after_of_not_scanned {run : Nat} {id : TransactionId} (absent : id ∉ runs.scanned run) :
    (runs.after run).transactions.find? id = (runs.store run).transactions.find? id := by
  obtain ⟨summary, same⟩ := runs.after_eq run
  obtain ⟨_, others, _⟩ := reconcileEach_writes (runs.foreignKeys run)
    (runs.nodup_scanned run) (runs.turns run) summary
  rw [same]
  exact others id absent

theorem after_of_scanned {run index : Nat} (inside : index < (runs.scanned run).length) :
    (runs.after run).transactions.find? (runs.scanned run)[index] =
      ((runs.store run).transactions.find? (runs.scanned run)[index]).map
        (runs.turns run index).applyTo := by
  obtain ⟨summary, same⟩ := runs.after_eq run
  obtain ⟨_, _, each⟩ := reconcileEach_writes (runs.foreignKeys run)
    (runs.nodup_scanned run) (runs.turns run) summary
  rw [same]
  exact each index inside

/-- The row of a transaction which is stale when a run starts. -/
theorem row_of_stale {run : Nat} {id : TransactionId} (stale : id ∈ runs.staleIds run) :
    ∃ row, (runs.store run).transactions.find? id = some row ∧
      row.isStalePending runs.providers (runs.startedAt run - runs.minAge) = true :=
  mem_map_stalePendingCharges.mp stale

theorem startedAt_lt_succ (run : Nat) :
    runs.startedAt run + runs.minAge < runs.startedAt (run + 1) := by
  have later := runs.forward run 0
  have apart := runs.apart run 0
  linarith

/-- A reply leaves its transaction pending, and stale again when the next run starts. -/
theorem isStalePending_applyTo {run index : Nat} {row : PaymentTransaction}
    (stale : row.isStalePending runs.providers (runs.startedAt run - runs.minAge) = true) :
    ((runs.turns run index).applyTo row).isStalePending runs.providers
      (runs.startedAt (run + 1) - runs.minAge) = true := by
  have apart := runs.apart run index
  have later := runs.startedAt_lt_succ run
  have allowed := runs.pending_or_throws run index
  simp only [PaymentTransaction.isStalePending, Bool.and_eq_true, decide_eq_true_eq] at stale ⊢
  obtain ⟨⟨⟨charge, provider⟩, pending⟩, old⟩ := stale
  cases replied : (runs.turns run index).reply with
  | threw message =>
      simp only [QueryTurn.applyTo, replied]
      exact ⟨⟨⟨charge, provider⟩, pending⟩, by linarith⟩
  | answered answer =>
      rw [replied] at allowed
      have status : answer.status = .pending := allowed
      simp only [QueryTurn.applyTo, replied, settledRow, status, mapGatewayToTransactionStatus]
      exact ⟨⟨⟨charge, provider⟩, rfl⟩, by linarith⟩

/-- What is stale at the start stays so. -/
theorem mem_staleIds (run : Nat) {id : TransactionId} :
    id ∈ runs.staleIds run ↔ id ∈ runs.staleIds 0 := by
  induction run with
  | zero =>
      exact Iff.rfl
  | succ run inductionHypothesis =>
      refine ⟨runs.no_others run id, fun initial => ?_⟩
      obtain ⟨row, stored, stale⟩ := runs.row_of_stale (inductionHypothesis.mpr initial)
      apply mem_map_stalePendingCharges.mpr
      rw [runs.kept run id initial]
      by_cases member : id ∈ runs.scanned run
      · obtain ⟨index, inside, rfl⟩ := List.getElem_of_mem member
        rw [runs.after_of_scanned inside, stored]
        exact ⟨_, rfl, runs.isStalePending_applyTo stale⟩
      · rw [runs.after_of_not_scanned member, stored]
        refine ⟨row, rfl, ?_⟩
        have later := runs.startedAt_lt_succ run
        simp only [PaymentTransaction.isStalePending, Bool.and_eq_true,
          decide_eq_true_eq] at stale ⊢
        exact ⟨stale.1, by linarith⟩

theorem length_staleAt (run : Nat) : (runs.staleAt run).length = (runs.staleAt 0).length := by
  have same : (runs.staleIds run).Perm (runs.staleIds 0) :=
    (List.perm_ext_iff_of_nodup (runs.nodup_staleIds run) (runs.nodup_staleIds 0)).mpr
      fun _ => runs.mem_staleIds run
  have lengths := same.length_eq
  simpa [ReconciliationSchedule.staleIds] using lengths

/-- When a run starts, the transaction was last written at the first component. -/
def stampAt (run : Nat) (id : TransactionId) : Time ×ₗ TransactionId :=
  (((runs.store run).transactions.find? id).map PaymentTransaction.stamp).getD (toLex (0, id))

theorem stampAt_of_mem {run : Nat} {row : PaymentTransaction} (stale : row ∈ runs.staleAt run) :
    runs.stampAt run row.id = row.stamp := by
  obtain ⟨stored, _⟩ := mem_stalePendingCharges.mp stale
  have found : (runs.store run).transactions.find? row.id = some row :=
    (Table.find?_eq_some_iff _).mpr ⟨stored, rfl⟩
  rw [stampAt, found]
  rfl

theorem exists_of_mem_staleIds {run : Nat} {id : TransactionId} (stale : id ∈ runs.staleIds 0) :
    ∃ row ∈ runs.staleAt run, row.id = id :=
  List.mem_map.mp ((runs.mem_staleIds run).mpr stale)

/-- What a run scans was written before what it leaves. -/
theorem stampAt_lt {run : Nat} {id other : TransactionId} (taken : id ∈ runs.scanned run)
    (stale : other ∈ runs.staleIds 0) (left : other ∉ runs.scanned run) :
    runs.stampAt run id < runs.stampAt run other := by
  obtain ⟨row, listed, rfl⟩ := List.mem_map.mp taken
  obtain ⟨otherRow, otherStale, rfl⟩ := @exists_of_mem_staleIds runs run _ stale
  have cut : (runs.staleAt run).take runs.limit ++ (runs.staleAt run).drop runs.limit =
      runs.staleAt run := List.take_append_drop _ _
  have dropped : otherRow ∈ (runs.staleAt run).drop runs.limit := by
    rcases List.mem_append.mp (cut ▸ otherStale) with early | late
    · exact absurd (List.mem_map_of_mem early) left
    · exact late
  have sorted : ((runs.staleAt run).take runs.limit ++
      (runs.staleAt run).drop runs.limit).Pairwise fun first second =>
        first.stamp ≤ second.stamp := cut.symm ▸ pairwise_stalePendingCharges
  have ordered := (List.pairwise_append.mp sorted).2.2 row listed otherRow dropped
  rw [runs.stampAt_of_mem (List.mem_of_mem_take listed), runs.stampAt_of_mem otherStale]
  refine lt_of_le_of_ne ordered fun same => left ?_
  have sameId : row.id = otherRow.id := congrArg (fun stamp => (ofLex stamp).2) same
  exact sameId ▸ taken

theorem stampAt_succ_of_not_scanned {run : Nat} {id : TransactionId}
    (stale : id ∈ runs.staleIds 0) (absent : id ∉ runs.scanned run) :
    runs.stampAt (run + 1) id = runs.stampAt run id := by
  rw [stampAt, runs.kept run id stale, runs.after_of_not_scanned absent]
  rfl

theorem mem_staleIds_of_scanned {run : Nat} {id : TransactionId} (taken : id ∈ runs.scanned run) :
    id ∈ runs.staleIds 0 := by
  have listed : (runs.scanned run).Sublist (runs.staleIds run) :=
    (List.take_sublist _ _).map _
  exact (runs.mem_staleIds run).mp (listed.subset taken)

theorem length_scanned (run : Nat) :
    (runs.scanned run).length = min runs.limit (runs.staleAt 0).length := by
  rw [ReconciliationSchedule.scanned, List.length_map, List.length_take, runs.length_staleAt]

theorem card_staleIds : (runs.staleIds 0).toFinset.card = (runs.staleAt 0).length := by
  rw [List.toFinset_card_of_nodup (runs.nodup_staleIds 0), ReconciliationSchedule.staleIds,
    List.length_map]

/-- The runs take the stale charges in rotation. -/
def rotation : Rotation TransactionId (Time ×ₗ TransactionId) runs.limit where
  items := (runs.staleIds 0).toFinset
  stamp := runs.stampAt
  batch := fun run => (runs.scanned run).toFinset
  batch_subset := by
    intro run id member
    exact List.mem_toFinset.mpr (runs.mem_staleIds_of_scanned (List.mem_toFinset.mp member))
  card_batch := by
    intro run
    rw [List.toFinset_card_of_nodup (runs.nodup_scanned run), runs.length_scanned,
      runs.card_staleIds]
  oldest_first := by
    intro run id taken other stale left
    exact runs.stampAt_lt (List.mem_toFinset.mp taken) (List.mem_toFinset.mp stale)
      fun member => left (List.mem_toFinset.mpr member)
  untouched := by
    intro run id stale absent
    exact runs.stampAt_succ_of_not_scanned (List.mem_toFinset.mp stale)
      fun member => absent (List.mem_toFinset.mpr member)

/-! ## Set back -/

theorem stampAt_succ_of_scanned {run index : Nat}
    (inside : index < (runs.scanned run).length) :
    runs.stampAt (run + 1) (runs.scanned run)[index] =
      if (runs.turns run index).reply.throws = true then
        runs.stampAt run (runs.scanned run)[index]
      else toLex ((runs.turns run index).appliedAt, (runs.scanned run)[index]) := by
  have stale := runs.mem_staleIds_of_scanned (List.getElem_mem inside)
  obtain ⟨row, stored, _⟩ := runs.row_of_stale ((runs.mem_staleIds run).mpr stale)
  have sameId : row.id = (runs.scanned run)[index] :=
    (runs.store run).transactions.key_of_find? stored
  rw [stampAt, runs.kept run _ stale, runs.after_of_scanned inside, stampAt, stored]
  cases replied : (runs.turns run index).reply with
  | threw message =>
      simp [QueryTurn.applyTo, replied, GatewayReply.throws]
  | answered answer =>
      simp [QueryTurn.applyTo, replied, GatewayReply.throws, PaymentTransaction.stamp,
        settledRow, sameId]

theorem startedAt_zero_le (run : Nat) : runs.startedAt 0 ≤ runs.startedAt run := by
  induction run with
  | zero =>
      exact le_rfl
  | succ run inductionHypothesis =>
      have later := runs.startedAt_lt_succ run
      linarith

theorem getElem?_of_scanned {run index : Nat} (inside : index < (runs.scanned run).length) :
    ∃ row, (runs.staleAt run)[index]? = some row ∧ row.id = (runs.scanned run)[index] := by
  have within : index < (runs.staleAt run).length := by
    have bound := runs.length_scanned run
    rw [runs.length_staleAt]
    omega
  refine ⟨(runs.staleAt run)[index], List.getElem?_eq_getElem within, ?_⟩
  simp only [ReconciliationSchedule.scanned, List.getElem_map, List.getElem_take]

/-- The stale charge which was written last. -/
def IsNewest (newest : PaymentTransaction) : Prop :=
  (runs.staleAt 0).getLast? = some newest

variable {runs}

theorem IsNewest.mem {newest : PaymentTransaction} (isNewest : runs.IsNewest newest) :
    newest ∈ runs.staleAt 0 :=
  List.mem_of_getLast? isNewest

theorem IsNewest.stampAt_le {newest : PaymentTransaction} (isNewest : runs.IsNewest newest)
    {id : TransactionId} (stale : id ∈ runs.staleIds 0) :
    runs.stampAt 0 id ≤ runs.stampAt 0 newest.id := by
  obtain ⟨row, listed, rfl⟩ := runs.exists_of_mem_staleIds stale
  obtain ⟨older, same⟩ := List.getLast?_eq_some_iff.mp isNewest
  have sorted : (older ++ [newest]).Pairwise fun first second => first.stamp ≤ second.stamp :=
    same ▸ pairwise_stalePendingCharges
  rw [runs.stampAt_of_mem listed, runs.stampAt_of_mem isNewest.mem]
  rcases List.mem_append.mp (same ▸ listed) with early | final
  · exact (List.pairwise_append.mp sorted).2.2 row early newest List.mem_cons_self
  · rw [List.mem_singleton.mp final]

theorem IsNewest.updatedAt_le {newest : PaymentTransaction} (isNewest : runs.IsNewest newest) :
    newest.updatedAt ≤ runs.startedAt 0 := by
  obtain ⟨_, stale⟩ := mem_stalePendingCharges.mp isNewest.mem
  simp only [PaymentTransaction.isStalePending, Bool.and_eq_true, decide_eq_true_eq] at stale
  have old := stale.2
  linarith

/-- As long as the newest charge waits, a query sets it back just when it says so. -/
theorem IsNewest.stampAt_succ_le_iff {newest : PaymentTransaction}
    (isNewest : runs.IsNewest newest) {run index : Nat}
    (inside : index < (runs.scanned run).length)
    (waits : ∀ earlier ≤ run, newest.id ∉ runs.scanned earlier) :
    runs.stampAt (run + 1) (runs.scanned run)[index] ≤ runs.stampAt (run + 1) newest.id ↔
      runs.setsBack run index = true := by
  have stale : newest.id ∈ runs.staleIds 0 := List.mem_map_of_mem isNewest.mem
  have kept := runs.stampAt_succ_of_not_scanned stale (waits run le_rfl)
  have original : runs.stampAt run newest.id = newest.stamp := by
    rw [← runs.stampAt_of_mem isNewest.mem]
    exact runs.rotation.stamp_of_waits (List.mem_toFinset.mpr stale) run fun earlier less =>
      fun taken => waits earlier less.le (List.mem_toFinset.mp taken)
  rw [runs.stampAt_succ_of_scanned inside, kept, ReconciliationSchedule.setsBack]
  by_cases throws : (runs.turns run index).reply.throws = true
  · have older := runs.stampAt_lt (List.getElem_mem inside) stale (waits run le_rfl)
    simp only [throws, if_true, Bool.true_or, iff_true]
    exact older.le
  · rw [if_neg throws, original]
    simp only [Bool.not_eq_true] at throws
    rw [throws, Bool.false_or]
    cases run with
    | zero =>
        obtain ⟨row, found, sameId⟩ := runs.getElem?_of_scanned inside
        have last : (runs.staleAt 0).getLast? = some newest := isNewest
        simp only [found, last, sameId, decide_true, Bool.true_and, decide_eq_true_eq]
    | succ run =>
        have later := runs.forward (run + 1) index
        have apart := runs.startedAt_lt_succ run
        have first := runs.startedAt_zero_le run
        have written := isNewest.updatedAt_le
        have after : newest.updatedAt < (runs.turns (run + 1) index).appliedAt := by
          linarith
        simp only [Nat.succ_ne_zero, decide_false, Bool.false_and, Bool.false_eq_true, iff_false,
          not_le]
        exact Prod.Lex.toLex_lt_toLex.mpr (Or.inl after)

theorem IsNewest.card_setBack {newest : PaymentTransaction} (isNewest : runs.IsNewest newest)
    {run : Nat} (waits : ∀ earlier ≤ run, newest.id ∉ runs.scanned earlier)
    (full : runs.limit ≤ (runs.staleAt 0).length) :
    (runs.rotation.setBack newest.id run).card =
      ((Finset.range runs.limit).filter fun index => runs.setsBack run index).card := by
  have length : (runs.scanned run).length = runs.limit := by
    rw [runs.length_scanned]
    omega
  symm
  apply Finset.card_bij fun index _ => (runs.scanned run).getD index 0
  · intro index member
    obtain ⟨within, setsBack⟩ := Finset.mem_filter.mp member
    have inside : index < (runs.scanned run).length := length ▸ Finset.mem_range.mp within
    rw [List.getD_eq_getElem _ _ inside]
    exact Finset.mem_filter.mpr ⟨List.mem_toFinset.mpr (List.getElem_mem inside),
      (isNewest.stampAt_succ_le_iff inside waits).mpr setsBack⟩
  · intro left leftMember right rightMember same
    have leftInside : left < (runs.scanned run).length :=
      length ▸ Finset.mem_range.mp (Finset.mem_filter.mp leftMember).1
    have rightInside : right < (runs.scanned run).length :=
      length ▸ Finset.mem_range.mp (Finset.mem_filter.mp rightMember).1
    rw [List.getD_eq_getElem _ _ leftInside, List.getD_eq_getElem _ _ rightInside] at same
    exact (runs.nodup_scanned run).getElem_inj_iff.mp same
  · intro id member
    obtain ⟨taken, setBack⟩ := Finset.mem_filter.mp member
    obtain ⟨index, inside, rfl⟩ := List.getElem_of_mem (List.mem_toFinset.mp taken)
    refine ⟨index, Finset.mem_filter.mpr ⟨Finset.mem_range.mpr (length ▸ inside), ?_⟩,
      List.getD_eq_getElem _ _ inside⟩
    exact (isNewest.stampAt_succ_le_iff inside waits).mp setBack

end ReconciliationRuns

/-! ## Every stale charge is scanned -/

namespace ReconciliationRuns

variable {runs : ReconciliationRuns}

theorem rounds_spec (someone : 0 < (runs.staleAt 0).length) :
    ∃ before, runs.rounds = before + 1 ∧ before * runs.limit < (runs.staleAt 0).length := by
  have positive : 0 < runs.limit := resolvePendingReconciliationLimit_pos _ _
  have spec : ∀ count, runs.rounds ≤ count ↔ (runs.staleAt 0).length ≤ runs.limit * count :=
    fun count => ceilDiv_le_iff_le_smul positive
  cases counted : runs.rounds with
  | zero =>
      have none := (spec 0).mp counted.le
      omega
  | succ before =>
      refine ⟨before, rfl, ?_⟩
      by_contra enough
      have fits : runs.rounds ≤ before := by
        rw [spec before, Nat.mul_comm]
        omega
      omega

theorem IsNewest.setbacks_eq {newest : PaymentTransaction} (isNewest : runs.IsNewest newest)
    {before : Nat} (rounds : runs.rounds = before + 1)
    (few : before * runs.limit < (runs.staleAt 0).length) :
    runs.setbacks =
      ∑ run ∈ Finset.range before, (runs.rotation.setBack newest.id run).card := by
  have present : newest.id ∈ runs.rotation.items :=
    List.mem_toFinset.mpr (List.mem_map_of_mem isNewest.mem)
  have waits := runs.rotation.last_waits present
    (fun id stale => isNewest.stampAt_le (List.mem_toFinset.mp stale))
    (few.trans_eq runs.card_staleIds.symm)
  rw [ReconciliationSchedule.setbacks, rounds, Nat.add_sub_cancel]
  apply Finset.sum_congr rfl
  intro run member
  have less := Finset.mem_range.mp member
  have full : runs.limit ≤ (runs.staleAt 0).length := by
    have product : 1 * runs.limit ≤ before * runs.limit :=
      Nat.mul_le_mul_right runs.limit (by omega)
    omega
  exact (isNewest.card_setBack (fun earlier le taken =>
    waits earlier (by omega) (List.mem_toFinset.mpr taken)) full).symm

theorem all_scanned_iff (someone : 0 < (runs.staleAt 0).length) :
    (∀ id ∈ runs.staleIds 0, ∃ run < runs.rounds, id ∈ runs.scanned run) ↔
      (runs.staleAt 0).length + runs.setbacks ≤ runs.rounds * runs.limit := by
  obtain ⟨newest, isNewest⟩ : ∃ newest, runs.IsNewest newest :=
    ⟨_, List.getLast?_eq_some_getLast (List.ne_nil_of_length_pos someone)⟩
  obtain ⟨before, rounds, few⟩ := rounds_spec someone
  have present : newest.id ∈ runs.rotation.items :=
    List.mem_toFinset.mpr (List.mem_map_of_mem isNewest.mem)
  have served := runs.rotation.all_served_iff present
    (fun id stale => isNewest.stampAt_le (List.mem_toFinset.mp stale))
    (few.trans_eq runs.card_staleIds.symm)
  have card : runs.rotation.items.card = (runs.staleAt 0).length := runs.card_staleIds
  rw [card, ← isNewest.setbacks_eq rounds few, ← rounds] at served
  rw [← served]
  simp only [rotation, List.mem_toFinset]

end ReconciliationRuns

/-- Every run accounts for its queries.  Runs in a row scan every stale charge, as few as
can hold them, just when the queries before the last run set back no more charges than the
last run has places to spare. -/
theorem everyone_scanned_iff (runs : ReconciliationRuns) :
    (∀ environment input now turns store, ∃ summary,
      (reconcilePendingChargeTransactions environment input now turns store).result =
          .ok summary ∧
        summary.reconciled =
          summary.succeeded + summary.failed + summary.reversed + summary.stillPending ∧
        summary.scanned = summary.reconciled + summary.errors.length) ∧
    ((∀ row ∈ runs.staleAt 0, ∃ run < runs.rounds, row.id ∈ runs.scanned run) ↔
      (runs.staleAt 0).length + runs.setbacks ≤ runs.rounds * runs.limit) := by
  refine ⟨reconcilePendingChargeTransactions_accounts, ?_⟩
  rcases Nat.eq_zero_or_pos (runs.staleAt 0).length with none | someone
  · have nothing := List.length_eq_zero_iff.mp none
    simp [ReconciliationSchedule.setbacks, ReconciliationSchedule.rounds, nothing]
  · rw [← ReconciliationRuns.all_scanned_iff someone, ReconciliationSchedule.staleIds,
      List.forall_mem_map]

/-! ## A blocked charge -/

/-- Two attempts to pay one deposit, both pending at the gateway. -/
def pendingStore : Store :=
  payments.run (Store.initial sampleMarketplace)
    [.selectProposal (PaymentEnvironment.policy ⟨none, none, none, some "MPESA"⟩) 0 0 0 none 1,
      .payIntent 0 0 ⟨none⟩ (sampleAnswer .pending "first") 2,
      .payIntent 0 0 ⟨none⟩ (sampleAnswer .pending "second") 3]

/-- Runs of one query each, every one of which the gateway leaves unanswered. -/
def unansweredSchedule : ReconciliationSchedule where
  environment := ⟨some 1, none, none⟩
  input := ⟨none, none, none⟩
  startedAt run := 60003 + run * 120000
  turns run _ := ⟨.threw (some "timeout"), 60003 + run * 120000⟩
  store _ := pendingStore

theorem reconcileEach_unanswered (transactionIds : List TransactionId)
    {turns : Nat → QueryTurn} {message : Option String}
    (unanswered : ∀ index, (turns index).reply = .threw message)
    (summary : PendingReconciliationSummary) (store : Store) :
    (reconcileEach transactionIds turns summary store).state = store := by
  induction transactionIds generalizing turns summary store with
  | nil =>
      rfl
  | cons transactionId rest inductionHypothesis =>
      rw [reconcileEach, Action.attempt_bind_apply, Outcome.after_state]
      have same : (reconcileTransactionTurn transactionId (turns 0) store).state = store := by
        simp only [reconcileTransactionTurn, unanswered, reconcileTransactionUnanswered_state]
      rw [same]
      exact inductionHypothesis (fun index => unanswered (index + 1)) _ _

/-- A run without an answer changes nothing. -/
theorem after_of_unanswered (schedule : ReconciliationSchedule) {run : Nat}
    {message : Option String}
    (unanswered : ∀ index, (schedule.turns run index).reply = .threw message) :
    schedule.after run = schedule.store run := by
  unfold ReconciliationSchedule.after reconcilePendingChargeTransactions
  rw [Action.inspect_bind_apply]
  exact reconcileEach_unanswered _ unanswered _ _

theorem after_unansweredSchedule (run : Nat) : unansweredSchedule.after run = pendingStore :=
  after_of_unanswered unansweredSchedule fun _ => rfl

/-- Both charges are stale whenever a run starts. -/
theorem staleAt_unansweredSchedule (run : Nat) :
    unansweredSchedule.staleAt run = unansweredSchedule.staleAt 0 := by
  have all : ∀ row ∈ pendingStore.transactions,
      row.isStalePending unansweredSchedule.providers 3 = true := by decide +kernel
  have same : ∀ round, pendingStore.transactions.findMany (PaymentTransaction.isStalePending
      unansweredSchedule.providers
      (unansweredSchedule.startedAt round - unansweredSchedule.minAge)) =
        pendingStore.transactions.rows := by
    intro round
    apply List.filter_eq_self.mpr
    intro row member
    have stale := all row member
    have age : unansweredSchedule.minAge = 60000 := rfl
    simp only [PaymentTransaction.isStalePending, Bool.and_eq_true,
      decide_eq_true_eq] at stale ⊢
    refine ⟨stale.1, stale.2.trans ?_⟩
    have start : unansweredSchedule.startedAt round = 60003 + (round : Int) * 120000 := rfl
    rw [start, age]
    have nonneg : (0 : Int) ≤ (round : Int) * 120000 := by positivity
    push_cast
    linarith
  exact congrArg (fun rows => List.insertionSort (fun left right => left.stamp ≤ right.stamp) rows)
    ((same run).trans (same 0).symm)

theorem foreignKeys_pendingStore : pendingStore.ForeignKeys := by
  have reachable : payments.Reachable Store.IsInitial pendingStore := reachable_run _ _
  exact (reachable_consistent reachable).toForeignKeys

theorem unansweredSchedule_apart (run index : Nat) :
    (unansweredSchedule.turns run index).appliedAt + unansweredSchedule.minAge <
      unansweredSchedule.startedAt (run + 1) := by
  have age : unansweredSchedule.minAge = 60000 := rfl
  have start : unansweredSchedule.startedAt (run + 1) =
    60003 + ((run + 1 : Nat) : Int) * 120000 := rfl
  have applied : (unansweredSchedule.turns run index).appliedAt =
    60003 + (run : Int) * 120000 := rfl
  rw [age, start, applied]
  push_cast
  linarith

theorem mem_staleIds_unansweredSchedule {run : Nat} {id : TransactionId}
    (stale : id ∈ unansweredSchedule.staleIds run) : id ∈ unansweredSchedule.staleIds 0 := by
  rw [ReconciliationSchedule.staleIds, staleAt_unansweredSchedule] at stale
  exact stale

theorem kept_unansweredSchedule (run : Nat) (id : TransactionId)
    (_ : id ∈ unansweredSchedule.staleIds 0) :
    (unansweredSchedule.store (run + 1)).transactions.find? id =
      (unansweredSchedule.after run).transactions.find? id := by
  rw [after_unansweredSchedule]
  exact rfl

def unansweredRuns : ReconciliationRuns :=
  ⟨unansweredSchedule, fun _ => foreignKeys_pendingStore, fun _ _ => trivial,
    fun _ _ => le_rfl, unansweredSchedule_apart, kept_unansweredSchedule,
    fun _ _ => mem_staleIds_unansweredSchedule⟩

/-- Of two stale charges, with one query a run, the second is never scanned while the
query of the first throws. -/
theorem second_charge_starves :
    unansweredRuns.staleIds 0 = [0, 1] ∧ unansweredRuns.limit = 1 ∧
      unansweredRuns.rounds = 2 ∧ ∀ run, unansweredRuns.scanned run = [0] := by
  refine ⟨by decide +kernel, by decide +kernel, by decide +kernel, fun run => ?_⟩
  have always : unansweredRuns.scanned run = unansweredRuns.scanned 0 := by
    have same : unansweredRuns.staleAt run = unansweredRuns.staleAt 0 :=
      staleAt_unansweredSchedule run
    rw [ReconciliationSchedule.scanned, ReconciliationSchedule.scanned, same]
  rw [always]
  decide +kernel

end Tchuno.Payments
