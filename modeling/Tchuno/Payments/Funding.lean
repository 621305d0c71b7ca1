import Tchuno.Payments.ChargedJobs
import Tchuno.Payments.Conservation

/-!
# The funding of jobs under execution

A job moves on only while one of its intents is paid, which a refund does not change.  So
its customer was charged, and has got back no more than that, but perhaps all of it.
-/

namespace Tchuno.Payments

open Tchuno.Library

/-! ## Sums by job -/

/-- Sum of the entries of one type of a job. -/
def jobAmount (ledger : List LedgerEntry) (jobId : JobId) (entryType : LedgerEntryType) :
    Int :=
  sumAmounts (ledger.filter fun entry =>
    entry.jobId = some jobId && entry.entryType = entryType)

/-- What the customer has paid for the job and not got back. -/
def netFunding (ledger : List LedgerEntry) (jobId : JobId) : Int :=
  jobAmount ledger jobId .customerCharge - jobAmount ledger jobId .customerRefund

/-- What an entry adds to the funding of its job. -/
def LedgerEntry.funding (entry : LedgerEntry) : Int :=
  match entry.entryType with
  | .customerCharge => entry.amount
  | .customerRefund => -entry.amount
  | _ => 0

/-- What entries add to the funding of an intent. -/
def intentFunding (ledger : List LedgerEntry) (intentId : IntentId) : Int :=
  ((ledger.filter fun entry => entry.paymentIntentId = some intentId).map
    LedgerEntry.funding).sum

theorem sum_funding (ledger : List LedgerEntry) (chosen : LedgerEntry → Bool) :
    ((ledger.filter chosen).map LedgerEntry.funding).sum =
      sumAmounts (ledger.filter fun entry =>
        chosen entry && entry.entryType = .customerCharge) -
      sumAmounts (ledger.filter fun entry =>
        chosen entry && entry.entryType = .customerRefund) := by
  induction ledger with
  | nil =>
      rfl
  | cons entry rest inductionHypothesis =>
      simp only [List.filter_cons]
      by_cases counted : chosen entry = true
      · cases type : entry.entryType <;>
          simp [counted, type, sumAmounts, LedgerEntry.funding] <;>
          simp only [sumAmounts] at inductionHypothesis <;> omega
      · simp [counted, inductionHypothesis]

theorem intentFunding_eq (ledger : List LedgerEntry) (intentId : IntentId) :
    intentFunding ledger intentId =
      amountOfType ledger intentId .customerCharge -
        amountOfType ledger intentId .customerRefund :=
  sum_funding ledger _

theorem netFunding_eq (ledger : List LedgerEntry) (jobId : JobId) :
    netFunding ledger jobId =
      ((ledger.filter fun entry => entry.jobId = some jobId).map LedgerEntry.funding).sum :=
  (sum_funding ledger _).symm

/-- The customer's entries name the job of their intent. -/
def Books.CustomerJobs (books : Books) : Prop :=
  ∀ entry ∈ books.ledger, entry.funding ≠ 0 →
    ∃ intent ∈ books.intents, entry.paymentIntentId = some intent.id ∧
      entry.jobId = some intent.jobId

/-- Among intents with distinct identifiers one is met once. -/
theorem sum_of_own {intents : List PaymentIntent}
    (distinct : (intents.map PaymentIntent.id).Nodup) {own : PaymentIntent}
    (member : own ∈ intents) (chosen : PaymentIntent → Bool) (amount : Int) :
    ((intents.filter chosen).map fun intent =>
        if some own.id = some intent.id then amount else 0).sum =
      if chosen own = true then amount else 0 := by
  induction intents with
  | nil =>
      cases member
  | cons head rest inductionHypothesis =>
      obtain ⟨fresh, distinctRest⟩ := List.nodup_cons.mp distinct
      rcases List.mem_cons.mp member with rfl | later
      · have others : ((rest.filter chosen).map fun intent =>
            if some own.id = some intent.id then amount else 0).sum = 0 := by
          refine List.sum_eq_zero fun value made => ?_
          obtain ⟨intent, present, rfl⟩ := List.mem_map.mp made
          refine if_neg fun same => fresh ?_
          rw [Option.some.inj same]
          exact List.mem_map_of_mem (List.mem_of_mem_filter present)
        by_cases counted : chosen own = true
        · rw [List.filter_cons_of_pos counted, List.map_cons, List.sum_cons, others,
            if_pos rfl, if_pos counted, add_zero]
        · rw [List.filter_cons_of_neg counted, others, if_neg counted]
      · have apart : own.id ≠ head.id := by
          intro same
          rw [← same] at fresh
          exact fresh (List.mem_map_of_mem later)
        by_cases counted : chosen head = true
        · simpa [counted, apart] using inductionHypothesis distinctRest later
        · simpa [counted] using inductionHypothesis distinctRest later

theorem intentFunding_cons (entry : LedgerEntry) (rest : List LedgerEntry)
    (intentId : IntentId) :
    intentFunding (entry :: rest) intentId =
      (if entry.paymentIntentId = some intentId then entry.funding else 0) +
        intentFunding rest intentId := by
  by_cases counted : entry.paymentIntentId = some intentId <;>
    simp [intentFunding, counted]

/-- The funding of a job is that of its intents together. -/
theorem netFunding_eq_sum {ledger : List LedgerEntry} {intents : List PaymentIntent}
    (distinct : (intents.map PaymentIntent.id).Nodup)
    (linked : ∀ entry ∈ ledger, entry.funding ≠ 0 →
      ∃ intent ∈ intents, entry.paymentIntentId = some intent.id ∧
        entry.jobId = some intent.jobId) (jobId : JobId) :
    netFunding ledger jobId =
      ((intents.filter fun intent => intent.jobId = jobId).map fun intent =>
        intentFunding ledger intent.id).sum := by
  rw [netFunding_eq]
  induction ledger with
  | nil =>
      simp [intentFunding]
  | cons entry rest inductionHypothesis =>
      have later := inductionHypothesis fun other member =>
        linked other (List.mem_cons_of_mem entry member)
      simp only [intentFunding_cons]
      rw [List.sum_map_add, ← later]
      by_cases funds : entry.funding = 0
      · by_cases same : entry.jobId = some jobId <;> simp [same, funds]
      · obtain ⟨own, present, ofIntent, ofJob⟩ := linked entry List.mem_cons_self funds
        have once := sum_of_own distinct present (fun intent => intent.jobId = jobId)
          entry.funding
        rw [ofIntent, once]
        by_cases same : own.jobId = jobId
        · simp [ofJob, same]
        · simp [ofJob, same]

/-! ## What runs keep -/

/-- A movement which opens an intent opens it for some amount. -/
def Movement.OpensPositive : Movement → Prop
  | .selectProposal _ _ terms _ => 0 < terms.split.grossAmount
  | .openIntent split .. => 0 < split.grossAmount
  | _ => True

/-- Intents are for some amount, and so are the charges. -/
structure Books.Positive (books : Books) : Prop where
  intents : ∀ intent ∈ books.intents, 0 < intent.amount
  charges : ∀ entry ∈ books.ledger, entry.entryType = .customerCharge → 0 < entry.amount

namespace Movement

variable {books : Books} {movement : Movement}

theorem amount_pos_apply (opens : movement.OpensPositive) (positive : books.Positive)
    {intent : PaymentIntent} (member : intent ∈ movement.intents books) :
    0 < intent.amount := by
  have of_old : ∀ old ∈ books.intents, intent.fixed = old.fixed → 0 < intent.amount := by
    intro old older same
    have sameAmount : intent.amount = old.amount :=
      field_eq same PaymentIntent.amount fun _ => rfl
    rw [sameAmount]
    exact positive.intents old older
  cases movement with
  | selectProposal policy request terms actorUserId =>
      simp only [intents] at member
      rcases Table.eq_or_mem_of_insert member with rfl | older
      · exact opens
      · exact positive.intents intent older
  | openIntent split actorUserId dto now job providerUserId =>
      simp only [intents] at member
      rcases Table.eq_or_mem_of_insert member with rfl | older
      · exact opens
      · exact positive.intents intent older
  | moveJob job requesterId dto now =>
      simp only [intents] at member
      split_ifs at member
      · have origin : ∃ old ∈ books.intents, intent.fixed = old.fixed :=
          Table.Evolves.origin_updateMany _ member fun _ => rfl
        obtain ⟨old, older, same⟩ := origin
        exact of_old old older same
      · exact positive.intents intent member
  | applyReport report =>
      simp only [intents] at member
      split at member
      · have origin : ∃ old ∈ books.intents, intent.fixed = old.fixed :=
          Table.Evolves.origin_update _ member fun _ => rfl
        obtain ⟨old, older, same⟩ := origin
        exact of_old old older same
      · exact positive.intents intent member
  | _ =>
      exact positive.intents intent member

theorem positive_apply (opens : movement.OpensPositive) (positive : books.Positive) :
    (apply books movement).Positive where
  intents := fun _ => amount_pos_apply opens positive
  charges := by
    intro entry member ofCharge
    rcases List.mem_append.mp member with older | newer
    · exact positive.charges entry older ofCharge
    · have posted : entry ∈ (movement.entries books).filter fun entry =>
          entry.entryType = .customerCharge :=
        List.mem_filter.mpr ⟨newer, decide_eq_true ofCharge⟩
      rw [filter_customerCharge_entries] at posted
      cases charged : movement.charge? books with
      | none =>
          simp [charged] at posted
      | some target =>
          obtain ⟨intent, transactionId⟩ := target
          simp only [charged] at posted
          obtain ⟨report, rfl, _, opened, rfl⟩ := charge?_eq_some.mp charged
          obtain rfl := List.mem_singleton.mp posted
          obtain ⟨_, _, found⟩ := Option.bind_eq_some_iff.mp opened
          exact positive.intents intent (books.intents.mem_of_find? found)

theorem refundEntries_customer {intent : PaymentIntent} {transactionId : TransactionId}
    {amount : Int} {shares : RefundShares} {balances : RefundableBalances}
    {actorUserId : UserId} {entry : LedgerEntry}
    (member : entry ∈ refundEntries intent transactionId amount shares balances actorUserId)
    (funds : entry.funding ≠ 0) :
    entry.paymentIntentId = some intent.id ∧ entry.jobId = some intent.jobId := by
  simp only [refundEntries, List.mem_append, List.mem_singleton] at member
  rcases member with ((reversal | reversal) | reversal) | rfl
  · exact absurd (by simp [LedgerEntry.funding, reversalEntry_type _ _ _ _ _ _ _ _ reversal]) funds
  · exact absurd (by simp [LedgerEntry.funding, reversalEntry_type _ _ _ _ _ _ _ _ reversal]) funds
  · exact absurd (by simp [LedgerEntry.funding, reversalEntry_type _ _ _ _ _ _ _ _ reversal]) funds
  · exact ⟨rfl, rfl⟩

/-- The customer's entries a movement appends are for a stored intent and its job. -/
theorem entries_customer (admitted : movement.Admitted books) {entry : LedgerEntry}
    (member : entry ∈ movement.entries books) (funds : entry.funding ≠ 0) :
    ∃ intent ∈ books.intents, entry.paymentIntentId = some intent.id ∧
      entry.jobId = some intent.jobId := by
  cases movement with
  | applyReport report =>
      simp only [entries] at member
      split at member
      · next intent opened =>
          obtain ⟨_, _, found⟩ := Option.bind_eq_some_iff.mp opened
          refine ⟨intent, books.intents.mem_of_find? found, ?_⟩
          split_ifs at member
          · simp only [chargeEntries, List.mem_cons, List.not_mem_nil, or_false] at member
            rcases member with rfl | rfl | rfl <;> exact ⟨rfl, rfl⟩
          · cases member
      · cases member
  | settleRefund order actorUserId decisionNote answer now =>
      simp only [entries] at member
      split_ifs at member
      · refine ⟨order.intent, books.intents.mem_of_find? admitted.2.2.1, ?_⟩
        exact refundEntries_customer member funds
      · cases member
  | settlePayout payout actorUserId dto answer now =>
      simp only [entries] at member
      split_ifs at member
      · simp only [payoutEntries, providerTransfer, List.mem_cons, List.not_mem_nil,
          or_false] at member
        rcases member with rfl | rfl <;> exact absurd rfl funds
      · cases member
  | releaseFunds intent actorUserId =>
      simp only [entries, releaseEntries, providerTransfer, List.mem_cons, List.not_mem_nil,
        or_false] at member
      rcases member with rfl | rfl <;> exact absurd rfl funds
  | _ =>
      cases member

theorem customerJobs_apply (admitted : movement.Admitted books)
    (before : books.CustomerJobs) : (apply books movement).CustomerJobs := by
  have kept : ∀ entry : LedgerEntry,
      (∃ intent ∈ books.intents, entry.paymentIntentId = some intent.id ∧
        entry.jobId = some intent.jobId) →
      ∃ intent ∈ movement.intents books, entry.paymentIntentId = some intent.id ∧
        entry.jobId = some intent.jobId := by
    rintro entry ⟨intent, present, ofIntent, ofJob⟩
    obtain ⟨later, found, same⟩ := intents_evolve books movement _ intent
      (books.intents.find?_eq_some_iff.mpr ⟨present, rfl⟩)
    have sameId : later.id = intent.id := field_eq same PaymentIntent.id fun _ => rfl
    have sameJob : later.jobId = intent.jobId := field_eq same PaymentIntent.jobId fun _ => rfl
    exact ⟨later, Table.mem_of_find? _ found, ofIntent.trans (congrArg some sameId.symm),
      ofJob.trans (congrArg some sameJob.symm)⟩
  intro entry member funds
  rcases List.mem_append.mp member with older | newer
  · exact kept entry (before entry older funds)
  · exact kept entry (entries_customer admitted newer funds)

end Movement

/-! ## Policies -/

/-- The policy an operation is made with. -/
def Operation.policy? : Operation → Option PaymentPolicy
  | .selectProposal policy .. => some policy
  | .createIntent policy .. => some policy
  | .adminReleaseProviderFunds policy .. => some policy
  | _ => none

/-- The policy is one the services read from their environment. -/
def Operation.ReadsEnvironment (operation : Operation) : Prop :=
  ∀ policy ∈ operation.policy?, ∃ environment : PaymentEnvironment, policy = environment.policy

theorem computeSplit_pos {feeBps : EnvNumber} {amount : Int} (positive : 0 < amount) :
    0 < (computeSplit feeBps amount).grossAmount := by
  have exact_amount : Library.Ecma.mathTrunc (amount : ℚ) = amount := by
    rw [Library.Ecma.mathTrunc, if_pos (by exact_mod_cast positive.le), Int.floor_intCast]
  simp only [computeSplit, exact_amount]
  omega

theorem computeDepositSplit_pos {feeBps depositPercent : EnvNumber} {price : Int}
    {percent : Option DepositPercent} {split : DepositSplit}
    (computed : computeDepositSplit feeBps depositPercent price percent = .ok split) :
    0 < split.grossAmount := by
  simp only [computeDepositSplit] at computed
  split_ifs at computed
  cases computed
  exact lt_of_lt_of_le Int.one_pos (le_max_left _ _)

theorem resolveChargeAmount_pos {job : Job} {amount : Int}
    (resolved : resolveChargeAmount job = .ok amount) : 0 < amount := by
  unfold resolveChargeAmount at resolved
  split at resolved
  · next chosen =>
      cases resolved
      simpa using (Option.filter_eq_some_iff.mp chosen).2
  · next chosen =>
      cases resolved
      simpa using (Option.filter_eq_some_iff.mp chosen).2
  · cases resolved

theorem movements_opensPositive (store : Store) {operation : Operation}
    (reads : operation.ReadsEnvironment) :
    ∀ movement ∈ operation.movements store, movement.OpensPositive := by
  intro movement member
  cases makes_of_mem member with
  | @selectProposal policy _ _ _ _ _ _ _ _ gate =>
      obtain ⟨environment, rfl⟩ := reads policy rfl
      simp only [selectionGate, gate_bind_eq_ok, gate_pure_eq_ok] at gate
      obtain ⟨_, _, proposal, _, _, _, _, _, _, _, split, computed, rfl⟩ := gate
      exact computeDepositSplit_pos computed
  | @openIntent policy _ _ _ _ _ _ gate =>
      obtain ⟨environment, rfl⟩ := reads policy rfl
      simp only [createIntentGate, gate_bind_eq_ok] at gate
      obtain ⟨_, _, _, _, _, _, amount, resolved, decided⟩ := gate
      split at decided
      · cases decided
      · simp only [gate_bind_eq_ok, gate_pure_eq_ok] at decided
        obtain ⟨_, _, same⟩ := decided
        cases same
        exact computeSplit_pos (resolveChargeAmount_pos resolved)
  | _ =>
      trivial

theorem positive_perform {store : Store} (consistent : store.Consistent)
    (positive : store.Positive) {operation : Operation} (reads : operation.ReadsEnvironment) :
    (operation.perform store).Positive := by
  have along : bookkeeping.Along (fun _ movement => movement.OpensPositive) store.toBooks
      (operation.movements store) :=
    ((movements_admitted store operation).and_forall_mem
      (movements_opensPositive store reads)).mono fun _ _ both => both.2
  rw [perform_books consistent.toForeignKeys operation]
  exact @Machine.run_invariant _ _ bookkeeping Books.Positive _
    (fun _ _ positive opens => Movement.positive_apply opens positive) _ positive _ along

theorem run_positive (market : Marketplace) {operations : List Operation}
    (reads : ∀ operation ∈ operations, operation.ReadsEnvironment) :
    (payments.run (Store.initial market) operations).Positive := by
  have along : payments.Along (fun _ operation => operation.ReadsEnvironment)
      (Store.initial market) operations :=
    (Machine.Along.and_forall_mem
      (@Machine.along_of_forall _ _ payments (fun _ _ => True) (fun _ _ => trivial) _ _)
      reads).mono fun _ _ both => both.2
  refine (@Machine.run_invariant _ _ payments
    (fun store => store.Consistent ∧ store.Positive) _ ?_ (Store.initial market) ?_ _ along).2
  · rintro store operation ⟨consistent, positive⟩ reads
    exact ⟨perform_consistent consistent operation, positive_perform consistent positive reads⟩
  · exact ⟨Books.initial_consistent, by simp [Store.initial, Books.initial],
      by simp [Store.initial, Books.initial]⟩

/-! ## Under execution -/

theorem jobAmount_pos {ledger : List LedgerEntry} {jobId : JobId}
    (positive : ∀ entry ∈ ledger, entry.entryType = .customerCharge → 0 < entry.amount)
    (charged : HasCharge ledger jobId) : 0 < jobAmount ledger jobId .customerCharge := by
  obtain ⟨entry, member, ofCharge, ofJob⟩ := charged
  let counted := ledger.filter fun entry =>
    entry.jobId = some jobId && entry.entryType = .customerCharge
  have amounts : ∀ amount ∈ counted.map LedgerEntry.amount, 0 ≤ amount := by
    intro amount made
    obtain ⟨other, chosen, rfl⟩ := List.mem_map.mp made
    obtain ⟨present, accepted⟩ := List.mem_filter.mp chosen
    simp only [Bool.and_eq_true, decide_eq_true_eq] at accepted
    exact (positive other present accepted.2).le
  have here : entry.amount ∈ counted.map LedgerEntry.amount :=
    List.mem_map_of_mem (List.mem_filter.mpr ⟨member, by simp [ofJob, ofCharge]⟩)
  exact lt_of_lt_of_le (positive entry member ofCharge)
    (List.single_le_sum amounts entry.amount here)

theorem intentFunding_nonneg {store : Store}
    (reachable : payments.Reachable Store.IsInitial store) (intentId : IntentId) :
    0 ≤ intentFunding store.ledger intentId := by
  obtain ⟨account, holds⟩ := reachable_holds reachable intentId
  have customer := balance_customerExternal (reachable_customerSided reachable) intentId
  have conserved := account.conserved
  have reserved := account.reserved_nonneg
  have held := account.held_nonneg
  have available := account.available_nonneg
  have paidOut := account.paidOut_nonneg
  rw [holds] at customer
  rw [intentFunding_eq]
  simp only [bucketBalance] at customer
  omega

theorem reachable_customerJobs {store : Store}
    (reachable : payments.Reachable Store.IsInitial store) : store.CustomerJobs :=
  (reachable_invariant (fun _ _ _ admitted => Movement.customerJobs_apply admitted)
    (by simp [Books.CustomerJobs, Books.initial]) reachable).2

theorem netFunding_nonneg {store : Store}
    (reachable : payments.Reachable Store.IsInitial store) (jobId : JobId) :
    0 ≤ netFunding store.ledger jobId := by
  rw [netFunding_eq_sum store.intents.distinct (reachable_customerJobs reachable)]
  refine List.sum_nonneg fun amount made => ?_
  obtain ⟨intent, _, rfl⟩ := List.mem_map.mp made
  exact intentFunding_nonneg reachable intent.id

/-- A move to one of the states of execution. -/
def UpdateJobStatusDto.IsExecution (dto : UpdateJobStatusDto) : Prop :=
  dto.status ∈ [JobStatus.accepted, .inProgress, .completed]

instance (dto : UpdateJobStatusDto) : Decidable dto.IsExecution :=
  inferInstanceAs (Decidable (dto.status ∈ _))

theorem hasCharge_of_moved {store : Store} (escrowed : store.Escrowed) {jobId : JobId}
    {requesterId : UserId} {dto : UpdateJobStatusDto} {now : Time}
    (executes : dto.IsExecution)
    (moved : ¬ (updateStatus jobId requesterId dto now store).Failed) :
    HasCharge store.ledger jobId := by
  cases gate : updateStatusGate jobId requesterId dto store with
  | error error =>
      refine absurd ?_ moved
      rw [updateStatus, Action.consult_bind_apply, gate]
      exact Outcome.failed_of_error error store []
  | ok job =>
      have executing : dto.status ∈ [JobStatus.accepted, .inProgress, .completed] := executes
      simp only [updateStatusGate, if_pos executing, gate_bind_eq_ok, orThrow_eq_ok,
        guardThat_eq_ok] at gate
      obtain ⟨stored, found, _, _, _, _, _, _, _, paidIntent, _⟩ := gate
      obtain ⟨intent, chosen⟩ := Option.isSome_iff_exists.mp paidIntent
      obtain ⟨member, accepted⟩ := Table.mem_of_findFirst? _ chosen
      simp only [Bool.and_eq_true, decide_eq_true_eq] at accepted
      have charged := escrowed.paid intent member accepted.2
      have sameId : stored.id = jobId := store.jobs.key_of_find? found
      rw [accepted.1, sameId] at charged
      exact charged

/-- Every job under execution is funded at the moment it moves. -/
def ExecutionFunded (store : Store) : Prop :=
  ∀ jobId requesterId (dto : UpdateJobStatusDto) now, dto.IsExecution →
    ¬ (updateStatus jobId requesterId dto now store).Failed →
    0 < netFunding store.ledger jobId

/-- Every job under execution was charged at the moment it moves, and its customer has
got back no more than that. -/
def ExecutionCharged (store : Store) : Prop :=
  ∀ jobId requesterId (dto : UpdateJobStatusDto) now, dto.IsExecution →
    ¬ (updateStatus jobId requesterId dto now store).Failed →
    0 < jobAmount store.ledger jobId .customerCharge ∧
      jobAmount store.ledger jobId .customerRefund ≤
        jobAmount store.ledger jobId .customerCharge

theorem execution_charged (market : Marketplace) (operations : List Operation)
    (reads : ∀ operation ∈ operations, operation.ReadsEnvironment) :
    ExecutionCharged (payments.run (Store.initial market) operations) := by
  have reachable := reachable_run market operations
  intro jobId requesterId dto now executes moved
  have charged := hasCharge_of_moved (reachable_escrowed reachable) executes moved
  have funding := netFunding_nonneg reachable jobId
  refine ⟨jobAmount_pos (run_positive market reads).charges charged, ?_⟩
  rw [netFunding] at funding
  omega

theorem acceptance_charged :
    ExecutionCharged (payments.run (Store.initial sampleMarketplace)
      [sampleSelection, .payIntent 0 0 ⟨none⟩ (sampleAnswer .succeeded "charge") 2]) := by
  refine execution_charged sampleMarketplace _ fun operation member => ?_
  rcases List.mem_cons.mp member with rfl | later
  · intro policy chosen
    exact ⟨⟨none, none, none, none⟩, (Option.mem_some_iff.mp chosen).symm⟩
  · obtain rfl := List.mem_singleton.mp later
    intro policy chosen
    cases chosen

/-- The deposit is given back in full, and the provider still accepts the job. -/
theorem acceptance_unfunded :
    ¬ ExecutionFunded (payments.run (Store.initial sampleMarketplace)
      [sampleSelection, .payIntent 0 0 ⟨none⟩ (sampleAnswer .succeeded "charge") 2,
        .adminCreateRefund 2 ⟨0, none, "Late", []⟩ (sampleAnswer .succeeded "refund") 3]) := by
  intro funded
  have moved : ¬ (updateStatus 0 1 ⟨.accepted, none⟩ 4
      (payments.run (Store.initial sampleMarketplace)
        [sampleSelection, .payIntent 0 0 ⟨none⟩ (sampleAnswer .succeeded "charge") 2,
          .adminCreateRefund 2 ⟨0, none, "Late", []⟩ (sampleAnswer .succeeded "refund") 3])
      ).Failed := by
    decide +kernel
  have positive := funded 0 1 ⟨.accepted, none⟩ 4 (by decide) moved
  revert positive
  decide +kernel

end Tchuno.Payments
