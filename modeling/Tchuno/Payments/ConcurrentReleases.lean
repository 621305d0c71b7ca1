import Tchuno.Payments.Conservation
import Tchuno.Payments.Database
import Tchuno.Payments.Growth

/-!
# Releases by concurrent clients

A release reads the held balance of the intent and appends the entries which move it
to the available balance.  Nothing is locked in between, and no key is taken which a
second release would find in use, so the balance may be moved twice.
-/

namespace Tchuno.Payments

open Tchuno.Library Tchuno.Library.Ecma

/-! ## The call -/

/-- The job, which must be completed for long enough. -/
def releasableJobGate (policy : PaymentPolicy) (jobId : JobId) (now : Time) (store : Store) :
    Except ApiError Job := do
  let job ← orThrow (store.jobs.find? jobId) (.notFound "Job not found")
  guardThat (job.status = .completed)
    (.conflict "Only completed jobs can release provider funds")
  guardThat (policy.canReleaseFunds job.completedAt now = true)
    (.conflict ("Release window not reached yet (" ++ toString policy.releaseDelayHours ++
      "h)"))
  pure job

/-- The latest paid intent of the job. -/
def paidIntentGate (job : Job) (store : Store) : Except ApiError PaymentIntent :=
  orThrow
    (store.intents.findFirst? fun intent => intent.jobId = job.id && intent.status.isPaid)
    (.notFound "No successful payment intent found for this job")

theorem releaseGate_eq_ok {policy : PaymentPolicy} {jobId : JobId} {now : Time}
    {store : Store} {intent : PaymentIntent} :
    releaseGate policy jobId now store = .ok intent ↔
      ∃ job, releasableJobGate policy jobId now store = .ok job ∧
        paidIntentGate job store = .ok intent := by
  simp only [releaseGate, releasableJobGate, paidIntentGate, gate_bind_eq_ok, orThrow_eq_ok,
    guardThat_eq_ok, gate_pure_eq_ok]
  constructor
  · rintro ⟨job, found, completed, isCompleted, window, isReached, latest⟩
    exact ⟨job, ⟨job, found, completed, isCompleted, window, isReached, rfl⟩, latest⟩
  · rintro ⟨_, ⟨job, found, completed, isCompleted, window, isReached, rfl⟩, latest⟩
    exact ⟨job, found, completed, isCompleted, window, isReached, latest⟩

def Procedure.adminReleaseProviderFunds (policy : PaymentPolicy) (actorUserId : UserId)
    (jobId : JobId) (now : Time) : Procedure ReleaseReply := do
  let job ← .consult (.job jobId) fun database =>
    releasableJobGate policy jobId now database.toStore
  let intent ← .consult (.intentsOf job.id) fun database => paidIntentGate job database.toStore
  .transaction do
    let heldBalance ← Procedure.computeBucketNet .providerHeld (some intent.id)
    .require (0 < heldBalance) (.conflict "No held provider balance available to release")
    Procedure.appendEntries (releaseEntries intent heldBalance actorUserId)
    pure ⟨intent.jobId, intent.id, heldBalance, intent.currency⟩

/-- A call with all its inputs. -/
structure ReleaseCall where
  policy : PaymentPolicy
  actorUserId : UserId
  jobId : JobId
  now : Time

def ReleaseCall.procedure (call : ReleaseCall) : Procedure ReleaseReply :=
  Procedure.adminReleaseProviderFunds call.policy call.actorUserId call.jobId call.now

/-! ## What is credited, debited and released -/

/-- What entries put into a bucket of an intent. -/
def credited (entries : List LedgerEntry) (intentId : IntentId)
    (bucket : LedgerBalanceBucket) : Int :=
  sumAmounts (entries.filter fun entry =>
    entry.paymentIntentId = some intentId && entry.balanceBucket = bucket &&
      entry.direction = .credit)

/-- What releases have put into the available balance of an intent. -/
def releasedCredits (entries : List LedgerEntry) (intentId : IntentId) : Int :=
  sumAmounts (entries.filter fun entry =>
    entry.paymentIntentId = some intentId && entry.entryType = .providerBalanceReleased &&
      entry.balanceBucket = .providerAvailable && entry.direction = .credit)

/-- The held balance of an intent, as a release reads it. -/
def heldBalance (ledger : List LedgerEntry) (intentId : IntentId) : Int :=
  computeBucketNet ledger .providerHeld (ofIntent .provider (some intentId))

theorem sumAmounts_filter_append (first second : List LedgerEntry)
    (counted : LedgerEntry → Bool) :
    sumAmounts ((first ++ second).filter counted) =
      sumAmounts (first.filter counted) + sumAmounts (second.filter counted) := by
  simp [sumAmounts]

theorem balance_eq_credited_sub_debited (entries : List LedgerEntry) (intentId : IntentId)
    (bucket : LedgerBalanceBucket) :
    Journal.balance (intentJournal entries intentId) bucket =
      credited entries intentId bucket - debited entries intentId bucket := by
  induction entries with
  | nil =>
      rfl
  | cons entry rest inductionHypothesis =>
      rw [← List.singleton_append, intentJournal_append, Journal.balance_append,
        inductionHypothesis, credited, credited, debited, debited, sumAmounts_filter_append,
        sumAmounts_filter_append]
      by_cases counted : entry.paymentIntentId = some intentId
      · by_cases onBucket : entry.balanceBucket = bucket
        · cases direction : entry.direction <;>
            simp [intentJournal, counted, Journal.balance_cons, LedgerEntry.posting,
              LedgerEntry.signedAmount, onBucket, direction, sumAmounts] <;> omega
        · simp [intentJournal, counted, Journal.balance_cons, LedgerEntry.posting, onBucket,
            sumAmounts]
      · simp [intentJournal, counted, sumAmounts]

/-- Releases have not put more into the available balance than was debited from the held
one, which is not overdrawn. -/
structure ReleasesCovered (ledger : List LedgerEntry) (intentId : IntentId) : Prop where
  booked : ActorsMatch ledger
  released_le : releasedCredits ledger intentId ≤ debited ledger intentId .providerHeld
  held_nonneg : 0 ≤ heldBalance ledger intentId

theorem heldBalance_eq {ledger : List LedgerEntry} (booked : ActorsMatch ledger)
    (intentId : IntentId) :
    heldBalance ledger intentId =
      credited ledger intentId .providerHeld - debited ledger intentId .providerHeld := by
  rw [← balance_eq_credited_sub_debited, ← computeBucketNet_ofIntent booked]
  rfl

theorem ReleasesCovered.released_le_credited {ledger : List LedgerEntry}
    {intentId : IntentId} (covered : ReleasesCovered ledger intentId) :
    releasedCredits ledger intentId ≤ credited ledger intentId .providerHeld := by
  have nonneg := covered.held_nonneg
  have released := covered.released_le
  rw [heldBalance_eq covered.booked] at nonneg
  omega

/-! ## Releases in the sequential ledger -/

theorem debited_nonneg {entries : List LedgerEntry}
    (debits : ∀ entry ∈ entries, entry.direction = .debit → 0 ≤ entry.amount)
    (intentId : IntentId) (bucket : LedgerBalanceBucket) :
    0 ≤ debited entries intentId bucket := by
  refine List.sum_nonneg fun amount member => ?_
  obtain ⟨entry, counted, rfl⟩ := List.mem_map.mp member
  obtain ⟨present, isCounted⟩ := List.mem_filter.mp counted
  refine debits entry present ?_
  simp only [Bool.and_eq_true, decide_eq_true_eq] at isCounted
  exact isCounted.2

theorem releasedCredits_of_type {entries : List LedgerEntry}
    (types : ∀ entry ∈ entries, entry.entryType ≠ .providerBalanceReleased)
    (intentId : IntentId) : releasedCredits entries intentId = 0 := by
  rw [releasedCredits, List.filter_eq_nil_iff.mpr]
  · rfl
  · intro entry member
    simp [types entry member]

theorem mem_reversalEntry {intent : PaymentIntent} {transactionId : TransactionId}
    {actorUserId : UserId} {actorType : PaymentActorType} {bucket : LedgerBalanceBucket}
    {amount : Int} {description : String} {entry : LedgerEntry}
    (member : entry ∈ reversalEntry intent transactionId actorUserId actorType bucket amount
      description) :
    entry.entryType = .reversal ∧ 0 < entry.amount := by
  unfold reversalEntry at member
  split_ifs at member with positive
  · obtain rfl := List.mem_singleton.mp member
    exact ⟨rfl, positive⟩
  · cases member

theorem mem_refundEntries {intent : PaymentIntent} {transactionId : TransactionId}
    {amount : Int} {shares : RefundShares} {balances : RefundableBalances}
    {actorUserId : UserId} {entry : LedgerEntry}
    (member : entry ∈ refundEntries intent transactionId amount shares balances actorUserId) :
    entry.entryType ≠ .providerBalanceReleased ∧
      (entry.direction = .debit → 0 ≤ entry.amount) := by
  simp only [refundEntries, List.mem_append, List.mem_singleton] at member
  rcases member with ((reversal | reversal) | reversal) | rfl
  · obtain ⟨isReversal, positive⟩ := mem_reversalEntry reversal
    exact ⟨by simp [isReversal], fun _ => positive.le⟩
  · obtain ⟨isReversal, positive⟩ := mem_reversalEntry reversal
    exact ⟨by simp [isReversal], fun _ => positive.le⟩
  · obtain ⟨isReversal, positive⟩ := mem_reversalEntry reversal
    exact ⟨by simp [isReversal], fun _ => positive.le⟩
  · simp

/-- A release credits what it debits. -/
theorem releasedCredits_releaseEntries (intent : PaymentIntent) (amount : Int)
    (actorUserId : UserId) (intentId : IntentId) :
    releasedCredits (releaseEntries intent amount actorUserId) intentId =
      debited (releaseEntries intent amount actorUserId) intentId .providerHeld := by
  simp only [releasedCredits, debited, releaseEntries, providerTransfer]
  by_cases same : intent.id = intentId <;> simp [same, sumAmounts]

theorem Movement.released_le (books : Books) (movement : Movement) (intentId : IntentId) :
    releasedCredits (movement.entries books) intentId ≤
      debited (movement.entries books) intentId .providerHeld := by
  cases movement with
  | applyReport report =>
      simp only [entries]
      split
      · split_ifs
        · simp [releasedCredits, debited, chargeEntries, sumAmounts]
        · rfl
      · rfl
  | settleRefund order actorUserId decisionNote answer now =>
      simp only [entries]
      split_ifs
      · rw [releasedCredits_of_type fun entry member => (mem_refundEntries member).1]
        exact debited_nonneg (fun entry member => (mem_refundEntries member).2) _ _
      · rfl
  | settlePayout payout actorUserId dto answer now =>
      simp only [entries]
      split_ifs
      · simp [releasedCredits, debited, payoutEntries, providerTransfer, sumAmounts]
      · rfl
  | releaseFunds intent actorUserId =>
      exact (releasedCredits_releaseEntries ..).le
  | _ =>
      rfl

theorem reachable_releasesCovered {store : Store}
    (reachable : payments.Reachable Store.IsInitial store) (intentId : IntentId) :
    ReleasesCovered store.ledger intentId where
  booked := (reachable_consistent reachable).entry_actor
  released_le := by
    refine (@reachable_invariant
      (fun books => releasedCredits books.ledger intentId ≤
        debited books.ledger intentId .providerHeld) ?_ (le_refl 0) store reachable).2
    intro books movement _ _ before
    have moved := movement.released_le books intentId
    change releasedCredits (books.ledger ++ _) _ ≤ debited (books.ledger ++ _) _ _
    rw [releasedCredits, debited, sumAmounts_filter_append, sumAmounts_filter_append]
    exact Int.add_le_add before moved
  held_nonneg := by
    obtain ⟨account, holds⟩ := reachable_holds reachable intentId
    have balance := computeBucketNet_of_holds (reachable_consistent reachable) holds
      .providerHeld
    change heldBalance store.ledger intentId = _ at balance
    rw [balance]
    exact account.held_nonneg

/-! ## The discipline of the releases -/

/-- The call commits a release of the intent only while the held balance is no less than
what the call has read. -/
def ReleaseCall.Undisturbed (call : ReleaseCall) (intentId : IntentId)
    (seen : Option Database) : Statement Target → Database → Prop
  | .commit, database =>
      (releaseGate call.policy call.jobId call.now database.toStore).toOption.map
          PaymentIntent.id = some intentId →
        ∀ before ∈ seen, heldBalance before.ledger intentId ≤
          heldBalance database.ledger intentId
  | _, _ => True

instance ReleaseCall.decidableUndisturbed (call : ReleaseCall) (intentId : IntentId)
    (seen : Option Database) (statement : Statement Target) (database : Database) :
    Decidable (call.Undisturbed intentId seen statement database) := by
  cases statement <;> unfold ReleaseCall.Undisturbed <;> infer_instance

/-- Jobs and intents stay as they are, and releases are covered. -/
def releaseDiscipline {ι : Type} (calls : ι → ReleaseCall) (intentId : IntentId) :
    Discipline Database Database Target ι where
  data := id
  invariant := fun database => ReleasesCovered database.ledger intentId
  same := fun _ _ _ => True
  grows := fun before after => after.jobs = before.jobs ∧ after.intents = before.intents
  allowed := fun client => (calls client).Undisturbed intentId

@[simp]
theorem releaseDiscipline_data {ι : Type} (calls : ι → ReleaseCall) (intentId : IntentId)
    (database : Database) : (releaseDiscipline calls intentId).data database = database := rfl

theorem ReleasesCovered.release {ledger : List LedgerEntry} {intentId : IntentId}
    (covered : ReleasesCovered ledger intentId) (intent : PaymentIntent) {amount : Int}
    (held : intent.id = intentId → amount ≤ heldBalance ledger intentId)
    (actorUserId : UserId) :
    ReleasesCovered (ledger ++ releaseEntries intent amount actorUserId) intentId := by
  have booked : ActorsMatch (ledger ++ releaseEntries intent amount actorUserId) := by
    intro entry member
    rcases List.mem_append.mp member with older | newer
    · exact covered.booked entry older
    · simp only [releaseEntries, providerTransfer, List.mem_cons, List.not_mem_nil,
        or_false] at newer
      rcases newer with rfl | rfl <;> rfl
  have debits : debited (releaseEntries intent amount actorUserId) intentId .providerHeld =
      if intent.id = intentId then amount else 0 := by
    by_cases same : intent.id = intentId <;>
      simp [debited, releaseEntries, providerTransfer, same, sumAmounts]
  have credits : credited (releaseEntries intent amount actorUserId) intentId
      .providerHeld = 0 := by
    simp [credited, releaseEntries, providerTransfer, sumAmounts]
  have nonneg := covered.held_nonneg
  refine ⟨booked, ?_, ?_⟩
  · have released := releasedCredits_releaseEntries intent amount actorUserId intentId
    have before := covered.released_le
    rw [releasedCredits, debited, sumAmounts_filter_append, sumAmounts_filter_append,
      ← releasedCredits, ← releasedCredits, ← debited, ← debited, released]
    omega
  · rw [heldBalance_eq covered.booked] at nonneg held
    rw [heldBalance_eq booked, credited, debited, sumAmounts_filter_append,
      sumAmounts_filter_append, ← credited, ← credited, ← debited, ← debited, credits, debits]
    split_ifs with same
    · have enough := held same
      omega
    · omega

section Calls

variable {ι : Type} {calls : ι → ReleaseCall} {intentId : IntentId} {client : ι}

/-- The intent a call has chosen stays the one it would choose. -/
theorem gates_stable {held : Set Target} {job : Job} {intent : PaymentIntent} :
    (releaseDiscipline calls intentId).Stable held fun database =>
      releasableJobGate (calls client).policy (calls client).jobId (calls client).now
          database.toStore = .ok job ∧
        paidIntentGate job database.toStore = .ok intent := by
  rintro before after _ _ ⟨sameJobs, sameIntents⟩ ⟨released, paid⟩
  constructor
  · rw [← released, releasableJobGate, releasableJobGate, sameJobs]
  · rw [← paid, paidIntentGate, paidIntentGate, sameIntents]

theorem jobGate_stable {held : Set Target} {job : Job} :
    (releaseDiscipline calls intentId).Stable held fun database =>
      releasableJobGate (calls client).policy (calls client).jobId (calls client).now
        database.toStore = .ok job := by
  rintro before after _ _ ⟨sameJobs, _⟩ released
  rw [← released, releasableJobGate, releasableJobGate, sameJobs]

/-- The transaction of a release: what it has read as the held balance is still there
when it commits. -/
theorem safe_release {finish : Except ApiError ReleaseReply →
      Standing Database Database Target → Prop} {seen : Option Database} {job : Job}
    {intent : PaymentIntent} (ends : ∀ result middle, finish result middle) :
    (releaseDiscipline calls intentId).Safe client finish
      ⟨seen, ∅, id, fun database =>
        releasableJobGate (calls client).policy (calls client).jobId (calls client).now
            database.toStore = .ok job ∧
          paidIntentGate job database.toStore = .ok intent⟩
      (Script.transaction do
        let heldBalance ← Procedure.computeBucketNet .providerHeld (some intent.id)
        .require (0 < heldBalance) (.conflict "No held provider balance available to release")
        Procedure.appendEntries
          (releaseEntries intent heldBalance (calls client).actorUserId)
        pure ⟨intent.jobId, intent.id, heldBalance, intent.currency⟩) := by
  refine Discipline.safe_transaction (Discipline.safe_select_bind fun before _ knows _ => ?_)
  refine ⟨_, knows, gates_stable, Discipline.safe_require_bind (fun _ => ?_) fun _ => ?_⟩
  · rintro state covered ⟨released, paid⟩ undisturbed
    refine ⟨_, rfl, ⟨?_, ⟨rfl, rfl⟩, fun _ _ => trivial⟩, fun _ => True, trivial,
      Discipline.stable_true _, ends _ _⟩
    refine ReleasesCovered.release covered intent ?_ (calls client).actorUserId
    rintro rfl
    have chosen := releaseGate_eq_ok.mpr ⟨job, released, paid⟩
    exact undisturbed (by rw [releaseDiscipline_data, chosen]; rfl) before rfl
  · exact ⟨fun _ => True, fun _ _ _ => trivial, Discipline.stable_true _, ends _ _⟩

theorem safe_releaseCall :
    (releaseDiscipline calls intentId).Safe client
      ((releaseDiscipline calls intentId).Ends (fun _ _ _ _ => True) client)
      (Standing.initial _ _ _) (calls client).procedure := by
  have ends : ∀ (result : Except ApiError ReleaseReply) middle,
      (releaseDiscipline calls intentId).Ends (fun _ _ _ _ => True) client result middle :=
    fun _ _ _ _ _ => trivial
  refine Discipline.safe_consult_bind fun state _ _ _ => ?_
  simp only [releaseDiscipline_data, Standing.initial, id_eq]
  cases released : releasableJobGate (calls client).policy (calls client).jobId
      (calls client).now state.toStore with
  | error error =>
      exact ⟨fun _ => True, trivial, Discipline.stable_true _, ends (.error error) _⟩
  | ok job =>
      refine ⟨_, released, jobGate_stable, ?_⟩
      simp only [Discipline.Continues]
      refine Discipline.safe_consult_bind fun later _ knows _ => ?_
      simp only [releaseDiscipline_data, id_eq]
      cases paid : paidIntentGate job later.toStore with
      | error error =>
          exact ⟨fun _ => True, trivial, Discipline.stable_true _, ends (.error error) _⟩
      | ok intent =>
          exact ⟨_, ⟨knows, paid⟩, gates_stable, safe_release ends⟩

end Calls

/-! ## Released at most once -/

/-- A run of the calls from a store. -/
def releaseRun {ι : Type} [DecidableEq ι] (store : Store) (calls : ι → ReleaseCall)
    (schedule : List (ι × Turn)) :
    Cluster Database Target ι (Except ApiError ReleaseReply) :=
  (readCommitted Database Target ι (Except ApiError ReleaseReply)).run
    (Cluster.start ⟨store, []⟩ fun client => (calls client).procedure) schedule

/-- Releases have not put more into the available balance of the intent than was ever
credited to the held one, which is not negative. -/
def HeldReleasedOnce (ledger : List LedgerEntry) (intentId : IntentId) : Prop :=
  releasedCredits ledger intentId ≤ credited ledger intentId .providerHeld ∧
    0 ≤ heldBalance ledger intentId

instance (ledger : List LedgerEntry) (intentId : IntentId) :
    Decidable (HeldReleasedOnce ledger intentId) := by
  unfold HeldReleasedOnce
  infer_instance

/-- In every run in which each release is committed while the held balance is no less
than what it has read, the held funds of the intent are released at most once. -/
theorem held_released_once {ι : Type} [DecidableEq ι] (market : Marketplace)
    (operations : List Operation) (calls : ι → ReleaseCall) (intentId : IntentId)
    (schedule : List (ι × Turn))
    (undisturbed : (readCommitted Database Target ι (Except ApiError ReleaseReply)).Along
      (Cluster.Obeys fun client => (calls client).Undisturbed intentId)
      (Cluster.start ⟨payments.run (Store.initial market) operations, []⟩ fun client =>
        (calls client).procedure) schedule) :
    HeldReleasedOnce (releaseRun (payments.run (Store.initial market) operations) calls
      schedule).data.ledger intentId := by
  have start : ReleasesCovered (payments.run (Store.initial market) operations).ledger
      intentId := reachable_releasesCovered (reachable_run market operations) intentId
  obtain ⟨after, lawful⟩ := @Discipline.run_lawful _ _ _ _ _
    (releaseDiscipline calls intentId) (fun _ _ _ _ => True) _ _
    ⟨payments.run (Store.initial market) operations, []⟩ start _
    (fun client => safe_releaseCall) schedule undisturbed
  have sameData : after = (releaseRun _ calls schedule).data := lawful.data
  have covered : ReleasesCovered after.ledger intentId := lawful.invariant
  rw [← sameData]
  exact ⟨covered.released_le_credited, covered.held_nonneg⟩

/-! ## A balance which is released twice -/

section Sample

/-- A paid deposit of a completed job. -/
def sampleCompletion : List Operation :=
  [sampleSelection, .payIntent 0 0 ⟨none⟩ (sampleAnswer .succeeded "charge") 2,
    .updateStatus 0 1 ⟨.accepted, none⟩ 3, .updateStatus 0 1 ⟨.inProgress, none⟩ 4,
    .updateStatus 0 1 ⟨.completed, none⟩ 5]

/-- Two administrators release the funds of the job. -/
def sampleReleases (client : Bool) : ReleaseCall :=
  ⟨samplePolicy, if client then 2 else 3, 0, 100000000⟩

/-- Both have read the balance before one of them commits. -/
def sampleSimultaneous : List (Bool × Turn) :=
  List.replicate 3 (false, .advance) ++ List.replicate 8 (true, .advance) ++
    List.replicate 5 (false, .advance)

theorem held_released_twice :
    ¬ HeldReleasedOnce (releaseRun (payments.run (Store.initial sampleMarketplace)
      sampleCompletion) sampleReleases sampleSimultaneous).data.ledger 0 := by
  decide +kernel

/-- One after the other, the second is refused. -/
def sampleReleasesInTurn : List (Bool × Turn) :=
  List.replicate 8 (true, .advance) ++ List.replicate 8 (false, .advance)

theorem release_in_turn :
    HeldReleasedOnce (releaseRun (payments.run (Store.initial sampleMarketplace)
      sampleCompletion) sampleReleases sampleReleasesInTurn).data.ledger 0 :=
  held_released_once sampleMarketplace sampleCompletion sampleReleases 0
    sampleReleasesInTurn (by decide +kernel)

end Sample

end Tchuno.Payments
