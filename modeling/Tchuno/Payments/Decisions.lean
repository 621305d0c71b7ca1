import Tchuno.Payments.ConcurrentSettlements
import Tchuno.Payments.SettlementRecords

/-!
# Decisions on requests

What the calls which settle refunds and payouts keep to, however their statements
interleave.  That no transaction is settled twice rests on the unique keys alone.
That a request is decided once needs more: for the requests which are watched, no
decision may be committed between the moment a call reads the status and the moment
it locks the row.  An auxiliary variable says whose decision took effect.
-/

namespace Tchuno.Payments

open Tchuno.Library Tchuno.Library.Ecma

/-! ## The records of a request -/

def Books.isPending (books : Books) (refundRequestId : RefundId) : Bool :=
  (books.refunds.find? refundRequestId).any fun refund => refund.status = .pending

theorem Books.isPending_iff {books : Books} {refundRequestId : RefundId} :
    books.isPending refundRequestId = true ↔
      ∃ refund, books.refunds.find? refundRequestId = some refund ∧
        refund.status = .pending := by
  simp [isPending, Option.any_eq_true]

/-- A refund group was posted for the request. -/
def Books.RefundPosted (books : Books) (refundRequestId : RefundId) : Prop :=
  ∃ transaction ∈ books.transactions, transaction.IsRefundOf refundRequestId ∧
    settlementGroup books.ledger transaction.id ≠ []

/-- The request has an owner of its decision once it is not pending, and is paid back
exactly if it has succeeded. -/
structure Books.DecidedBy {ι : Type} (books : Books) (refundRequestId : RefundId)
    (refund : RefundRequest) (owner : Option ι) : Prop where
  stored : books.refunds.find? refundRequestId = some refund
  job : (books.jobs.find? refund.jobId).isSome
  intent : (books.intents.find? refund.paymentIntentId).isSome
  open_iff : refund.status = .pending ↔ owner = none
  posted_iff : refund.status = .succeeded ↔ books.RefundPosted refundRequestId

/-- The actor may cancel the request, as long as it is pending. -/
def Store.MayCancel (store : Store) (refundRequestId : RefundId) (actor : IntentActorInput) :
    Prop :=
  ∃ refund job access, store.refunds.find? refundRequestId = some refund ∧
    store.jobs.find? refund.jobId = some job ∧
    resolveJobAccess store.market job actor = .ok access ∧
    (access.isAdmin = true ∨ refund.requestedByUserId = actor.userId)

section Steps

variable {before after : Books} {refundRequestId : RefundId}

theorem Books.SettledOnce.congr (settled : before.SettledOnce)
    (transactions : after.transactions = before.transactions)
    (ledger : after.ledger = before.ledger) (payouts : after.payouts = before.payouts) :
    after.SettledOnce where
  refund_group := by
    rw [transactions, ledger]
    exact settled.refund_group
  payout_pair := by
    rw [transactions, ledger, payouts]
    exact settled.payout_pair
  paid_pair := by
    rw [transactions, ledger, payouts]
    exact settled.paid_pair

variable {ι : Type} {refund : RefundRequest} {owner : Option ι}

/-- Nothing is decided about the request. -/
theorem Books.DecidedBy.of_same (decided : before.DecidedBy refundRequestId refund owner)
    (refunds : after.refunds.find? refundRequestId = before.refunds.find? refundRequestId)
    (jobs : after.jobs = before.jobs) (intents : after.intents = before.intents)
    (posted : after.RefundPosted refundRequestId ↔ before.RefundPosted refundRequestId) :
    after.DecidedBy refundRequestId refund owner where
  stored := refunds.trans decided.stored
  job := jobs ▸ decided.job
  intent := intents ▸ decided.intent
  open_iff := decided.open_iff
  posted_iff := decided.posted_iff.trans posted.symm

theorem Books.DecidedBy.unposted (decided : before.DecidedBy refundRequestId refund owner)
    (pending : refund.status = .pending) : ¬ before.RefundPosted refundRequestId := by
  rw [← decided.posted_iff, pending]
  exact fun same => by cases same

/-- A pending request is decided. -/
theorem Books.DecidedBy.decide (decided : before.DecidedBy refundRequestId refund owner)
    {reply : RefundRequest} {client : ι} (fixed : reply.fixed = refund.fixed)
    (final : reply.status ≠ .pending)
    (stored : after.refunds.find? refundRequestId = some reply)
    (jobs : after.jobs = before.jobs) (intents : after.intents = before.intents)
    (posted : reply.status = .succeeded ↔ after.RefundPosted refundRequestId) :
    after.DecidedBy refundRequestId reply (some client) where
  stored := stored
  job := by
    rw [jobs, field_eq fixed RefundRequest.jobId fun _ => rfl]
    exact decided.job
  intent := by
    rw [intents, field_eq fixed RefundRequest.paymentIntentId fun _ => rfl]
    exact decided.intent
  open_iff := iff_of_false final (by simp)
  posted_iff := posted

theorem Store.MayCancel.of_evolves {before after : Store} {actor : IntentActorInput}
    (may : before.MayCancel refundRequestId actor)
    (refunds : Table.Evolves RefundRequest.fixed before.refunds after.refunds)
    (jobs : after.jobs = before.jobs) (market : after.market = before.market) :
    after.MayCancel refundRequestId actor := by
  obtain ⟨refund, job, access, stored, found, resolved, own⟩ := may
  obtain ⟨later, storedLater, same⟩ := refunds _ refund stored
  refine ⟨later, job, access, storedLater, ?_, market ▸ resolved, ?_⟩
  · rw [jobs, field_eq same RefundRequest.jobId fun _ => rfl]
    exact found
  · rw [field_eq same RefundRequest.requestedByUserId fun _ => rfl]
    exact own

end Steps

/-! ## A transaction with its entries -/

/-- The row is placed under unused keys, and all new entries are its own. -/
structure Books.Records (before after : Books) (row : PaymentTransaction)
    (entries : List LedgerEntry) : Prop where
  unused : before.transactions.find? row.id = none
  unshared : ∀ other ∈ before.transactions, ¬ other.SharesKey row
  placed : after.transactions = before.transactions.place row
  appended : after.ledger = before.ledger ++ entries
  settle : ∀ entry ∈ entries,
    entry.transactionId = some row.id ∧ entry.entryType.isSettlement = true

/-- Every entry references a stored transaction. -/
def Books.EntriesKnown (books : Books) : Prop :=
  ∀ entry ∈ books.ledger, ∀ transactionId, entry.transactionId = some transactionId →
    (books.transactions.find? transactionId).isSome

namespace Books.Records

variable {before after : Books} {row : PaymentTransaction} {entries : List LedgerEntry}
  (records : before.Records after row entries)

include records

theorem uniqueKeys (unique : UniqueKeys before.transactions) :
    UniqueKeys after.transactions := by
  rw [records.placed]
  exact unique.place records.unshared

theorem entriesKnown (known : before.EntriesKnown) : after.EntriesKnown := by
  intro entry member transactionId linked
  rw [records.appended] at member
  rw [records.placed, Table.find?_place]
  split_ifs with new
  · rfl
  · rcases List.mem_append.mp member with older | newer
    · exact known entry older transactionId linked
    · have sameId : row.id = transactionId :=
        Option.some.inj ((records.settle entry newer).1.symm.trans linked)
      exact absurd ⟨sameId.symm, sameId ▸ records.unused⟩ new

theorem group_of_stored {old : PaymentTransaction} (older : old ∈ before.transactions) :
    settlementGroup after.ledger old.id = settlementGroup before.ledger old.id := by
  have silent : settlementGroup entries old.id = [] := by
    refine settlementGroup_eq_nil fun entry member _ linked => ?_
    have sameId : row.id = old.id :=
      Option.some.inj ((records.settle entry member).1.symm.trans linked)
    exact before.transactions.find?_eq_none_iff.mp records.unused old older sameId.symm
  rw [records.appended, settlementGroup_append, silent, List.append_nil]

theorem group_of_row (known : before.EntriesKnown) :
    settlementGroup after.ledger row.id = entries := by
  rw [records.appended, settlementGroup_append,
    settlementGroup_of_unused known records.unused, settlementGroup_eq_self records.settle,
    List.nil_append]

theorem mem_row : row ∈ after.transactions := by
  rw [records.placed]
  exact (Table.mem_place_of_unused records.unused).mpr (.inl rfl)

theorem settledOnce (known : before.EntriesKnown) (settled : before.SettledOnce)
    (refund : row.type = .refund → entries = [] ∨ row.RefundGroup entries)
    (payout : ∀ payout ∈ after.payouts, row.IsPayoutOf payout.id →
      entries = [] ∨ payout.Pair row.id entries)
    (payouts : ∀ payout ∈ after.payouts, ∃ old ∈ before.payouts, payout.fixed = old.fixed ∧
      (payout.status = .paid → old.status = .paid ∨
        row.IsPayoutOf payout.id ∧ payout.Pair row.id entries)) :
    after.SettledOnce := by
  have group := records.group_of_row known
  refine settled.step ?_ (fun old older => records.group_of_stored older)
    (fun transaction member => ?_) fun payout present => .inl ?_
  · rw [records.placed]
    exact .place _ _ _
  · rw [records.placed] at member
    rcases Table.eq_or_mem_of_place member with rfl | older
    · rw [group]
      exact .inr ⟨refund, payout⟩
    · exact .inl ⟨transaction, older, rfl⟩
  · obtain ⟨old, older, same, paid⟩ := payouts payout present
    refine ⟨old, older, same, fun now => (paid now).imp_right ?_⟩
    rintro ⟨isPayout, pair⟩
    exact ⟨row, records.mem_row, isPayout, group.symm ▸ pair⟩

/-- The row posts a refund for its own request only. -/
theorem refundPosted_iff (known : before.EntriesKnown) (refundRequestId : RefundId) :
    after.RefundPosted refundRequestId ↔
      before.RefundPosted refundRequestId ∨
        row.IsRefundOf refundRequestId ∧ entries ≠ [] := by
  constructor
  · rintro ⟨transaction, member, isRefund, posted⟩
    rw [records.placed] at member
    rcases Table.eq_or_mem_of_place member with rfl | older
    · rw [records.group_of_row known] at posted
      exact .inr ⟨isRefund, posted⟩
    · rw [records.group_of_stored older] at posted
      exact .inl ⟨transaction, older, isRefund, posted⟩
  · rintro (⟨transaction, older, isRefund, posted⟩ | ⟨isRefund, posted⟩)
    · refine ⟨transaction, ?_, isRefund, ?_⟩
      · rw [records.placed]
        exact (Table.mem_place_of_unused records.unused).mpr (.inr older)
      · rw [records.group_of_stored older]
        exact posted
    · refine ⟨row, records.mem_row, isRefund, ?_⟩
      rw [records.group_of_row known]
      exact posted

end Books.Records

theorem refundedRow_key (record : RefundRequest) (answer : GatewayResult)
    (transactionId : TransactionId) (now : Time) (refund : RefundRequest) :
    Keyed.key (settledRefund (refundRow record answer now transactionId) answer.status refund) =
      Keyed.key refund :=
  rfl

/-- The books with the transaction of an approved request and its entries. -/
def Books.refunded (books : Books) (record : RefundRequest) (actorUserId : UserId)
    (decisionNote : Option String) (answer : GatewayResult) (transactionId : TransactionId)
    (now : Time) (entries : List LedgerEntry) : Books :=
  { books with
    refunds := (books.refunds.update record.id
      (approvedRefund record actorUserId decisionNote)).update record.id
        (settledRefund (refundRow record answer now transactionId) answer.status)
        (refundedRow_key record answer transactionId now)
    transactions := books.transactions.place (refundRow record answer now transactionId)
    ledger := books.ledger ++ entries }

section Refunded

variable {books : Books} (record : RefundRequest) (actorUserId : UserId)
  (decisionNote : Option String) (answer : GatewayResult) (transactionId : TransactionId)
  (now : Time) (entries : List LedgerEntry)

/-- The approved request after the gateway has answered. -/
def refundedRequest (refund : RefundRequest) : RefundRequest :=
  settledRefund (refundRow record answer now transactionId) answer.status
    (approvedRefund record actorUserId decisionNote refund)

theorem find?_refunded (other : RefundId) :
    (books.refunded record actorUserId decisionNote answer transactionId now
      entries).refunds.find? other =
      if other = record.id then
        (books.refunds.find? other).map
          (refundedRequest record actorUserId decisionNote answer transactionId now)
      else
        books.refunds.find? other := by
  simp only [Books.refunded, Table.find?_update]
  split_ifs
  · rw [Option.map_map]
    rfl
  · rfl

theorem refunds_evolve_refunded :
    Table.Evolves RefundRequest.fixed books.refunds
      (books.refunded record actorUserId decisionNote answer transactionId now
        entries).refunds := by
  intro other refund found
  rw [find?_refunded, found]
  split_ifs
  · exact ⟨_, rfl, rfl⟩
  · exact ⟨refund, rfl, rfl⟩

end Refunded

/-- The entries which the answer of the gateway leads to. -/
def RefundRequest.Posts (record : RefundRequest) (answer : GatewayResult)
    (transactionId : TransactionId) (entries : List LedgerEntry) : Prop :=
  if answer.status = .succeeded then
    ∃ intent shares balances actorUserId,
      entries = refundEntries intent transactionId record.amount shares balances actorUserId
  else
    entries = []

theorem records_refunded {books : Books} {entries : List LedgerEntry}
    {record : RefundRequest} (actorUserId : UserId) (decisionNote : Option String)
    {answer : GatewayResult} {transactionId : TransactionId} {now : Time}
    (unused : books.transactions.find? (refundRow record answer now transactionId).id = none ∧
      ∀ other ∈ books.transactions,
        ¬ other.SharesKey (refundRow record answer now transactionId))
    (posts : record.Posts answer transactionId entries) :
    books.Records (books.refunded record actorUserId decisionNote answer transactionId now
      entries) (refundRow record answer now transactionId) entries where
  unused := unused.1
  unshared := unused.2
  placed := rfl
  appended := rfl
  settle := by
    intro entry member
    unfold RefundRequest.Posts at posts
    split_ifs at posts
    · obtain ⟨intent, shares, balances, actorUserId, rfl⟩ := posts
      exact refundEntries_settle _ _ _ _ _ _ entry member
    · rw [posts] at member
      cases member

/-- A change which leaves the link of a request leaves the keys. -/
theorem Books.SettlementKeys.updateRefund {books : Books} (keys : books.SettlementKeys)
    {refundRequestId : RefundId} {change : RefundRequest → RefundRequest}
    {keyed : ∀ refund, Keyed.key (change refund) = Keyed.key refund}
    (linked : ∀ refund, (change refund).transactionId = refund.transactionId) :
    { books with
      refunds := books.refunds.update refundRequestId change keyed }.SettlementKeys := by
  refine keys.step (.refl _ _) (.refl _ _)
    (fun transaction _ _ refund present _ link => ?_)
    (fun transaction member => .inl ⟨transaction, member, rfl⟩)
    fun refund member transactionId link => .inl ?_
  · have found : books.refunds.find? refund.id = some refund :=
      books.refunds.find?_eq_some_iff.mpr ⟨present, rfl⟩
    have reads := books.refunds.find?_update change keyed refundRequestId refund.id
    rw [found] at reads
    split_ifs at reads
    · exact ⟨change refund, Table.mem_of_find? _ reads, keyed refund,
        (linked refund).trans link⟩
    · exact ⟨refund, Table.mem_of_find? _ reads, rfl, link⟩
  · obtain ⟨old, older, rfl⟩ :=
      @Table.exists_of_update _ _ books.refunds change keyed _ _ member
    split_ifs at link ⊢
    · exact ⟨old, older, keyed old, (linked old).symm.trans link⟩
    · exact ⟨old, older, rfl, link⟩

/-- The new transaction carries the key of the request, which points to it from now
on. -/
theorem Books.SettlementKeys.refunded {books : Books} (keys : books.SettlementKeys)
    {entries : List LedgerEntry} {record : RefundRequest} {actorUserId : UserId}
    {decisionNote : Option String} {answer : GatewayResult} {transactionId : TransactionId}
    {now : Time}
    (records : books.Records (books.refunded record actorUserId decisionNote answer
      transactionId now entries) (refundRow record answer now transactionId) entries)
    (stored : (books.refunds.find? record.id).isSome) :
    (books.refunded record actorUserId decisionNote answer transactionId now
      entries).SettlementKeys := by
  have reads := @find?_refunded books record actorUserId decisionNote answer
    transactionId now entries
  have placed := records.mem_row
  refine keys.step (.place _ _ _) (.refl _ _) (fun transaction member _ refund present isOf link =>
    ?_) (fun transaction member => ?_) fun refund member linkedId link => ?_
  · have different : refund.id ≠ record.id := fun same =>
      records.unshared transaction member (.inl (isOf.2.trans (congrArg _ same)))
    have found : books.refunds.find? refund.id = some refund :=
      books.refunds.find?_eq_some_iff.mpr ⟨present, rfl⟩
    have later := reads refund.id
    rw [if_neg different, found] at later
    exact ⟨refund, Table.mem_of_find? _ later, rfl, link⟩
  · rw [records.placed] at member
    rcases Table.eq_or_mem_of_place member with rfl | older
    · obtain ⟨refund, found⟩ := Option.isSome_iff_exists.mp stored
      have settled := reads record.id
      rw [if_pos rfl, found] at settled
      refine .inr ⟨fun _ => ⟨_, Table.mem_of_find? _ settled, ⟨rfl, ?_⟩, rfl⟩, nofun⟩
      exact congrArg refundIdempotencyKey (books.refunds.key_of_find? found).symm
    · exact .inl ⟨transaction, older, rfl⟩
  · have found := ((Table.find?_eq_some_iff _).mpr ⟨member, rfl⟩).symm.trans (reads refund.id)
    split_ifs at found with same
    · obtain ⟨old, _, rfl⟩ := Option.map_eq_some_iff.mp found.symm
      refine .inr ⟨_, placed, Option.some.inj link, rfl, ?_⟩
      exact congrArg refundIdempotencyKey same.symm
    · exact .inl ⟨refund, books.refunds.mem_of_find? found.symm, rfl, link⟩

theorem paidRow_key (payoutRecord : Payout) (actorUserId : UserId) (dto : ProcessPayoutDto)
    (answer : GatewayResult) (transactionId : TransactionId) (now : Time) (payout : Payout) :
    Keyed.key (settledPayout payoutRecord actorUserId
      (payoutRow payoutRecord dto answer now transactionId) answer.status payout) =
      Keyed.key payout :=
  rfl

/-- The books with the transaction of a payout and its entries. -/
def Books.paidOut (books : Books) (payoutRecord : Payout) (actorUserId : UserId)
    (dto : ProcessPayoutDto) (answer : GatewayResult) (transactionId : TransactionId)
    (now : Time) (entries : List LedgerEntry) : Books :=
  { books with
    payouts := books.payouts.update payoutRecord.id (settledPayout payoutRecord actorUserId
      (payoutRow payoutRecord dto answer now transactionId) answer.status)
      (paidRow_key payoutRecord actorUserId dto answer transactionId now)
    transactions := books.transactions.place (payoutRow payoutRecord dto answer now transactionId)
    ledger := books.ledger ++ entries }

/-- The entries which the answer of the gateway leads to. -/
def Payout.Posts (payout : Payout) (answer : GatewayResult) (transactionId : TransactionId)
    (actorUserId : UserId) (entries : List LedgerEntry) : Prop :=
  if answer.status = .succeeded then
    entries = payoutEntries payout transactionId actorUserId
  else
    entries = []

theorem records_paidOut {books : Books} {entries : List LedgerEntry} {payoutRecord : Payout}
    {actorUserId : UserId} {dto : ProcessPayoutDto} {answer : GatewayResult}
    {transactionId : TransactionId} {now : Time}
    (unused : books.transactions.find? (payoutRow payoutRecord dto answer now
        transactionId).id = none ∧
      ∀ other ∈ books.transactions,
        ¬ other.SharesKey (payoutRow payoutRecord dto answer now transactionId))
    {payout : Payout} (posts : payout.Posts answer transactionId actorUserId entries) :
    books.Records (books.paidOut payoutRecord actorUserId dto answer transactionId now entries)
      (payoutRow payoutRecord dto answer now transactionId) entries where
  unused := unused.1
  unshared := unused.2
  placed := rfl
  appended := rfl
  settle := by
    intro entry member
    unfold Payout.Posts at posts
    split_ifs at posts
    · rw [posts] at member
      exact payoutEntries_settle _ _ _ entry member
    · rw [posts] at member
      cases member

/-- The new transaction carries the key of the payout. -/
theorem Books.SettlementKeys.paidOut {books : Books} (keys : books.SettlementKeys)
    {entries : List LedgerEntry} {payoutRecord : Payout} {actorUserId : UserId}
    {dto : ProcessPayoutDto} {answer : GatewayResult} {transactionId : TransactionId}
    {now : Time} (stored : (books.payouts.find? payoutRecord.id).isSome) :
    (books.paidOut payoutRecord actorUserId dto answer transactionId now
      entries).SettlementKeys := by
  have evolve : Table.Evolves Payout.fixed books.payouts (books.paidOut payoutRecord
      actorUserId dto answer transactionId now entries).payouts := by
    refine Table.Evolves.update _ _ _ _ ?_ ?_
    · exact fun _ => rfl
    · exact fun _ => rfl
  refine keys.step (.place _ _ _) evolve (fun _ _ _ refund present _ link =>
    ⟨refund, present, rfl, link⟩) (fun transaction member => ?_)
    fun refund member _ link => .inl ⟨refund, member, rfl, link⟩
  rcases Table.eq_or_mem_of_place member with rfl | older
  · refine .inr ⟨nofun, fun _ => ?_⟩
    obtain ⟨payout, found⟩ := Option.isSome_iff_exists.mp stored
    obtain ⟨later, foundLater, same⟩ := evolve payoutRecord.id payout found
    refine ⟨later, Table.mem_of_find? _ foundLater, rfl, ?_⟩
    exact congrArg payoutIdempotencyKey (Table.key_of_find? _ foundLater).symm
  · exact .inl ⟨transaction, older, rfl⟩

/-! ## The discipline -/

/-- The database with the owners of the decisions on refund requests. -/
structure Observed (ι : Type) where
  database : Database
  owner : RefundId → Option ι

/-- The refund request a call is about. -/
def SettlementCall.refundRequest? : SettlementCall → Option RefundId
  | .adminApproveRefund _ refundRequestId _ _ _ _ => some refundRequestId
  | .adminRejectRefund _ refundRequestId _ _ => some refundRequestId
  | .cancelRefundRequest refundRequestId _ _ => some refundRequestId
  | _ => none

/-- The status which the decision of a call gives its request. -/
def SettlementCall.outcome? : SettlementCall → Option RefundStatus
  | .adminApproveRefund _ _ _ answer _ _ => some (nextRefundStatus answer.status)
  | .adminRejectRefund _ _ _ _ => some .failed
  | .cancelRefundRequest _ _ _ => some .canceled
  | _ => none

/-- An approval finds that its amount is left and that the keys of its transaction are
unused. -/
def SettlementCall.FindsRoom (call : SettlementCall) (refundRequestId : RefundId)
    (row : Target) (database : Database) : Prop :=
  match call with
  | .adminApproveRefund _ approved _ answer transactionId _ =>
      approved = refundRequestId → ∀ refund ∈ database.refunds.find? refundRequestId,
        (∀ intent ∈ database.intents.find? refund.paymentIntentId,
          row = .refundsOf intent.id →
            refund.amount ≤ max 0 (intent.amount - database.refundSum intent.id [.succeeded])) ∧
        (row = .transactionKey (refundIdempotencyKey refundRequestId) →
          database.transactions.find? transactionId = none ∧
            database.admitsTransaction (refundIdempotencyKey refundRequestId) refund.provider
              (some answer.providerReference) = true)
  | _ => True

/-- A request which was pending when the call has read it is pending when the call
locks it, and an approval finds room. -/
def SettlementCall.Undisturbed (call : SettlementCall) (refundRequestId : RefundId)
    (seen : Option Database) (statement : Statement Target) (database : Database) : Prop :=
  match statement with
  | .lock locked =>
      locked = .refund refundRequestId →
        ∀ earlier ∈ seen, earlier.isPending refundRequestId = true →
          database.isPending refundRequestId = true
  | .look row => call.FindsRoom refundRequestId row database
  | _ => True

instance (call : SettlementCall) (refundRequestId : RefundId) (row : Target)
    (database : Database) : Decidable (call.FindsRoom refundRequestId row database) := by
  cases call <;> unfold SettlementCall.FindsRoom <;> infer_instance

instance (call : SettlementCall) (refundRequestId : RefundId) (seen : Option Database)
    (statement : Statement Target) (database : Database) :
    Decidable (call.Undisturbed refundRequestId seen statement database) :=
  match statement with
  | .lock locked =>
      inferInstanceAs (Decidable (locked = .refund refundRequestId →
        ∀ earlier ∈ seen, earlier.isPending refundRequestId = true →
          database.isPending refundRequestId = true))
  | .look row => inferInstanceAs (Decidable (call.FindsRoom refundRequestId row database))
  | .write | .commit | .rollback => inferInstanceAs (Decidable True)

/-- What holds of the committed data. -/
structure DecisionInvariant {ι : Type} (watched : RefundId → Prop)
    (calls : ι → SettlementCall) (state : Observed ι) : Prop where
  unique : UniqueKeys state.database.transactions
  known : state.database.EntriesKnown
  settled : state.database.SettledOnce
  keys : state.database.SettlementKeys
  decided : ∀ refundRequestId, watched refundRequestId →
    ∃ refund, state.database.DecidedBy refundRequestId refund (state.owner refundRequestId)
  may_cancel : ∀ refundRequestId, watched refundRequestId → ∀ client actor now,
    calls client = .cancelRefundRequest refundRequestId actor now →
      state.database.MayCancel refundRequestId actor

theorem DecisionInvariant.isSome_refund {ι : Type} {watched : RefundId → Prop}
    {calls : ι → SettlementCall} {state : Observed ι}
    (invariant : DecisionInvariant watched calls state) {refundRequestId : RefundId}
    (watches : watched refundRequestId) :
    (state.database.refunds.find? refundRequestId).isSome := by
  obtain ⟨refund, decided⟩ := invariant.decided refundRequestId watches
  rw [decided.stored]
  rfl

/-- The locks on keys keep them unused; the lock on a watched request protects its
row, and a decision on it is final. -/
def decisionDiscipline {ι : Type} (watched : RefundId → Prop) (calls : ι → SettlementCall) :
    Discipline (Observed ι) Database Target ι where
  data := Observed.database
  invariant := DecisionInvariant watched calls
  same := fun target before after =>
    (target.Unused before.database → target.Unused after.database) ∧
      ∀ refundRequestId, watched refundRequestId → target = .refund refundRequestId →
        after.database.refunds.find? refundRequestId =
          before.database.refunds.find? refundRequestId
  grows := fun before after => before.database.Grows after.database ∧
    ∀ refundRequestId, watched refundRequestId → ∀ refund client,
      before.database.refunds.find? refundRequestId = some refund →
      before.owner refundRequestId = some client →
        after.database.refunds.find? refundRequestId = some refund ∧
          after.owner refundRequestId = some client
  allowed := fun client seen statement database => ∀ refundRequestId,
    watched refundRequestId → (calls client).Undisturbed refundRequestId seen statement database

/-! ## Commits -/

/-- The books are rewritten and cases are updated; nothing else changes. -/
structure Database.Rewrites (before after : Database) (books : Books) : Prop where
  books : after.toBooks = books
  market : after.market = before.market
  events : after.events = before.events
  applied : after.applied = before.applied
  incidents : Table.Evolves OperationalIncident.id before.incidents after.incidents

theorem Database.Rewrites.updateIncident {before after : Database} {books : Books}
    (rewrites : before.Rewrites after books) {incidentId : Nat}
    {change : OperationalIncident → OperationalIncident}
    (keyed : ∀ incident, Keyed.key (change incident) = Keyed.key incident)
    (incidentEvents : List OperationalIncidentEvent) :
    before.Rewrites
      { after with
        incidents := after.incidents.update incidentId change keyed
        incidentEvents := incidentEvents } books where
  books := rewrites.books
  market := rewrites.market
  events := rewrites.events
  applied := rewrites.applied
  incidents := rewrites.incidents.trans (.update _ _ _ _ keyed keyed)

theorem Target.Unused.of_same {before after : Database} {target : Target}
    (unused : target.Unused before) (transactions : after.transactions = before.transactions)
    (events : after.events = before.events) : target.Unused after := by
  refine unused.of_keyView ?_
  rw [keyView, transactions, events, keyView]

section Commits

variable {ι : Type} {watched : RefundId → Prop} {calls : ι → SettlementCall}
  {held : Set Target} {state : Observed ι} {written : Database} {books : Books}

@[simp]
theorem decisionDiscipline_data (state : Observed ι) :
    (decisionDiscipline watched calls).data state = state.database := rfl

theorem keeps_refl (invariant : DecisionInvariant watched calls state) :
    (decisionDiscipline watched calls).Keeps held state state where
  invariant := invariant
  grows := ⟨.refl _, fun _ _ _ _ found owned => ⟨found, owned⟩⟩
  same := fun _ _ => ⟨id, fun _ _ _ => rfl⟩

/-- What is left to show for a commit which rewrites the books. -/
theorem keeps_of_rewrites (invariant : DecisionInvariant watched calls state)
    (rewrites : state.database.Rewrites written books) {owner : RefundId → Option ι}
    (jobs : books.jobs = state.database.jobs) (intents : books.intents = state.database.intents)
    (transactions : Table.Evolves PaymentTransaction.fixed state.database.transactions
      books.transactions)
    (ledger : state.database.ledger <+: books.ledger)
    (refunds : Table.Evolves RefundRequest.fixed state.database.refunds books.refunds)
    (payouts : Table.Evolves Payout.fixed state.database.payouts books.payouts)
    (unique : UniqueKeys books.transactions) (known : books.EntriesKnown)
    (settled : books.SettledOnce) (keyed : books.SettlementKeys)
    (decided : ∀ refundRequestId, watched refundRequestId →
      ∃ refund, books.DecidedBy refundRequestId refund (owner refundRequestId))
    (kept : ∀ refundRequestId, watched refundRequestId → ∀ refund client,
      state.database.refunds.find? refundRequestId = some refund →
      state.owner refundRequestId = some client →
        books.refunds.find? refundRequestId = some refund ∧
          owner refundRequestId = some client)
    (unused : ∀ target ∉ held, target.Unused state.database → target.Unused written)
    (locked : ∀ refundRequestId, watched refundRequestId → .refund refundRequestId ∉ held →
      books.refunds.find? refundRequestId =
        state.database.refunds.find? refundRequestId) :
    (decisionDiscipline watched calls).Keeps held state ⟨written, owner⟩ := by
  obtain ⟨rfl, market, events, applied, incidents⟩ := rewrites
  refine ⟨⟨unique, known, settled, keyed, decided, ?_⟩, ⟨?_, kept⟩, ?_⟩
  · intro refundRequestId watches client actor now call
    exact (invariant.may_cancel refundRequestId watches client actor now call).of_evolves
      refunds jobs market
  · exact
      { jobs := jobs ▸ .refl _ _
        intents := intents ▸ .refl _ _
        transactions := transactions
        refunds := refunds
        payouts := payouts
        events := events ▸ .refl _ _
        incidents := incidents
        ledger := ledger
        applied := applied ▸ List.suffix_rfl }
  · intro target free
    refine ⟨unused target free, ?_⟩
    rintro refundRequestId watches rfl
    exact locked refundRequestId watches free

/-- The decision of a client on a request whose row it has locked. -/
theorem keeps_decision (invariant : DecisionInvariant watched calls state)
    (rewrites : state.database.Rewrites written books) {refundRequestId : RefundId}
    (client : ι) (locked : Target.refund refundRequestId ∈ held)
    (jobs : books.jobs = state.database.jobs) (intents : books.intents = state.database.intents)
    (transactions : Table.Evolves PaymentTransaction.fixed state.database.transactions
      books.transactions)
    (ledger : state.database.ledger <+: books.ledger)
    (refunds : Table.Evolves RefundRequest.fixed state.database.refunds books.refunds)
    (payouts : books.payouts = state.database.payouts)
    (unique : UniqueKeys books.transactions) (known : books.EntriesKnown)
    (settled : books.SettledOnce) (keyed : books.SettlementKeys)
    (others : ∀ other, other ≠ refundRequestId →
      books.refunds.find? other = state.database.refunds.find? other ∧
        (books.RefundPosted other ↔ state.database.RefundPosted other))
    (decides : watched refundRequestId → ∃ refund reply,
      state.database.refunds.find? refundRequestId = some refund ∧
      refund.status = .pending ∧
      books.refunds.find? refundRequestId = some reply ∧
      reply.fixed = refund.fixed ∧ reply.status ≠ .pending ∧
      (reply.status = .succeeded ↔ books.RefundPosted refundRequestId))
    (unused : ∀ target ∉ held, target.Unused state.database → target.Unused written) :
    (decisionDiscipline watched calls).Keeps held state
      ⟨written, Function.update state.owner refundRequestId (some client)⟩ := by
  refine keeps_of_rewrites invariant rewrites jobs intents transactions ledger refunds
    (payouts ▸ .refl _ _) unique known settled keyed ?_ ?_ unused ?_
  · intro other watches
    obtain ⟨refund, decided⟩ := invariant.decided other watches
    by_cases same : other = refundRequestId
    · subst same
      obtain ⟨pending, reply, found, _, stored, fixed, final, posted⟩ := decides watches
      obtain rfl : refund = pending := Option.some.inj (decided.stored.symm.trans found)
      rw [Function.update_self]
      exact ⟨reply, decided.decide fixed final stored jobs intents posted⟩
    · rw [Function.update_of_ne same]
      exact ⟨refund, decided.of_same (others other same).1 jobs intents (others other same).2⟩
  · intro other watches refund owner found owned
    have different : other ≠ refundRequestId := by
      rintro rfl
      obtain ⟨pending, _, stored, isPending, _⟩ := decides watches
      obtain ⟨row, decided⟩ := invariant.decided other watches
      obtain rfl : row = pending := Option.some.inj (decided.stored.symm.trans stored)
      rw [decided.open_iff.mp isPending] at owned
      cases owned
    rw [Function.update_of_ne different]
    exact ⟨(others other different).1.trans found, owned⟩
  · intro other _ free
    have different : other ≠ refundRequestId := by
      rintro rfl
      exact free locked
    exact (others other different).1

/-- A decision which only rewrites the request. -/
theorem keeps_decide (invariant : DecisionInvariant watched calls state)
    {refundRequestId : RefundId} {change : RefundRequest → RefundRequest}
    {keyed : ∀ refund, Keyed.key (change refund) = Keyed.key refund}
    (rewrites : state.database.Rewrites written books)
    (refunds : books = { state.database.toBooks with
      refunds := state.database.refunds.update refundRequestId change keyed })
    (client : ι) (locked : Target.refund refundRequestId ∈ held)
    (fixed : ∀ refund, (change refund).fixed = refund.fixed)
    (linked : ∀ refund, (change refund).transactionId = refund.transactionId)
    (final : ∀ refund, (change refund).status ≠ .pending ∧ (change refund).status ≠ .succeeded)
    (pending : watched refundRequestId → state.database.isPending refundRequestId = true) :
    (decisionDiscipline watched calls).Keeps held state
      ⟨written, Function.update state.owner refundRequestId (some client)⟩ := by
  subst refunds
  refine keeps_decision invariant rewrites client locked rfl rfl (.refl _ _)
    List.prefix_rfl (Table.Evolves.update _ _ _ _ keyed fixed) rfl invariant.unique invariant.known
    (invariant.settled.congr rfl rfl rfl) (invariant.keys.updateRefund linked)
    (fun other different => ⟨?_, Iff.rfl⟩) ?_ ?_
  · rw [Table.find?_update, if_neg different]
  · intro watches
    obtain ⟨refund, found, isPending⟩ := Books.isPending_iff.mp (pending watches)
    refine ⟨refund, change refund, found, isPending, ?_, fixed refund, (final refund).1,
      iff_of_false (final refund).2 ?_⟩
    · rw [Table.find?_update, if_pos rfl, found]
      rfl
    · obtain ⟨row, decided⟩ := invariant.decided _ watches
      obtain rfl : row = refund := Option.some.inj (decided.stored.symm.trans found)
      exact decided.unposted isPending
  · intro target _ unused
    refine unused.of_same ?_ rewrites.events
    rw [rewrites.books]

/-- The keys of the new transaction are locked. -/
theorem unused_of_records {row : PaymentTransaction} {entries : List LedgerEntry}
    (rewrites : state.database.Rewrites written books)
    (records : state.database.Records books row entries)
    (keys : ∀ key ∈ Procedure.transactionKeys row, key ∈ held) :
    ∀ target ∉ held, target.Unused state.database → target.Unused written := by
  intro target free unused
  have placed := unused.placeTransaction fun member => free (keys target member)
  refine placed.of_same ?_ rewrites.events
  exact (congrArg Books.transactions rewrites.books).trans records.placed

/-- The approval of a request, with its transaction and its entries. -/
theorem keeps_recordRefund (invariant : DecisionInvariant watched calls state)
    {record : RefundRequest} {actorUserId : UserId} {decisionNote : Option String}
    {answer : GatewayResult} {transactionId : TransactionId} {now : Time}
    {entries : List LedgerEntry}
    (rewrites : state.database.Rewrites written (state.database.refunded record actorUserId
      decisionNote answer transactionId now entries))
    (client : ι) (locked : Target.refund record.id ∈ held)
    (keys : ∀ key ∈ Procedure.transactionKeys (refundRow record answer now transactionId),
      key ∈ held)
    (unused : ∀ key ∈ Procedure.transactionKeys (refundRow record answer now transactionId),
      key.Unused state.database)
    (stored : (state.database.refunds.find? record.id).isSome)
    (pending : watched record.id → state.database.isPending record.id = true)
    (posts : record.Posts answer transactionId entries) :
    (decisionDiscipline watched calls).Keeps held state
      ⟨written, Function.update state.owner record.id (some client)⟩ := by
  have records := records_refunded actorUserId decisionNote
    (unused_transactionKeys_iff.mp unused) posts
  have posted : ∀ other, _ ↔ _ := records.refundPosted_iff invariant.known
  have isRefund : ∀ other, (refundRow record answer now transactionId).IsRefundOf other ↔
      other = record.id := by
    intro other
    exact (and_iff_right rfl).trans (refundIdempotencyKey_inj.trans eq_comm)
  unfold RefundRequest.Posts at posts
  refine keeps_decision invariant rewrites client locked rfl rfl (.place _ _ _)
    (List.prefix_append _ _) ?_ rfl (records.uniqueKeys invariant.unique)
    (records.entriesKnown invariant.known) ?_ (invariant.keys.refunded records stored)
    (fun other different => ?_) (fun watches => ?_) (unused_of_records rewrites records keys)
  · exact refunds_evolve_refunded _ _ _ _ _ _ _
  · refine records.settledOnce invariant.known invariant.settled (fun _ => ?_)
      (fun _ _ isPayout => nomatch isPayout.1) fun payout present =>
        ⟨payout, present, rfl, .inl⟩
    split_ifs at posts
    · exact .inr posts
    · exact .inl posts
  · refine ⟨?_, ?_⟩
    · rw [find?_refunded, if_neg different]
    · rw [posted, isRefund, or_iff_left fun both => different both.1]
  · obtain ⟨refund, found, isPending⟩ := Books.isPending_iff.mp (pending watches)
    obtain ⟨row, decided⟩ := invariant.decided _ watches
    obtain rfl : row = refund := Option.some.inj (decided.stored.symm.trans found)
    refine ⟨row, refundedRequest record actorUserId decisionNote answer transactionId now row,
      found, isPending, ?_, rfl, ?_, ?_⟩
    · rw [find?_refunded, if_pos rfl, found]
      rfl
    · change nextRefundStatus answer.status ≠ .pending
      cases answer.status <;> simp [nextRefundStatus, mapGatewayToTransactionStatus]
    · change nextRefundStatus answer.status = .succeeded ↔ _
      rw [nextRefundStatus_eq_succeeded, posted, isRefund,
        or_iff_right (decided.unposted isPending), and_iff_right rfl]
      split_ifs at posts with succeeded
      · obtain ⟨intent, shares, balances, actorUserId, rfl⟩ := posts
        exact iff_of_true succeeded (refundEntries_ne_nil _ _ _ _ _ _)
      · exact iff_of_false succeeded fun some => some posts

/-- A commit which decides on no request. -/
theorem keeps_undecided (invariant : DecisionInvariant watched calls state)
    (rewrites : state.database.Rewrites written books)
    (jobs : books.jobs = state.database.jobs) (intents : books.intents = state.database.intents)
    (transactions : Table.Evolves PaymentTransaction.fixed state.database.transactions
      books.transactions)
    (ledger : state.database.ledger <+: books.ledger)
    (refunds : books.refunds = state.database.refunds)
    (payouts : Table.Evolves Payout.fixed state.database.payouts books.payouts)
    (unique : UniqueKeys books.transactions) (known : books.EntriesKnown)
    (settled : books.SettledOnce) (keyed : books.SettlementKeys)
    (posted : ∀ refundRequestId,
      books.RefundPosted refundRequestId ↔ state.database.RefundPosted refundRequestId)
    (unused : ∀ target ∉ held, target.Unused state.database → target.Unused written) :
    (decisionDiscipline watched calls).Keeps held state ⟨written, state.owner⟩ := by
  refine keeps_of_rewrites invariant rewrites jobs intents transactions ledger
    (refunds ▸ .refl _ _) payouts unique known settled keyed (fun refundRequestId watches => ?_)
    (fun refundRequestId _ refund client found owned => ⟨?_, owned⟩) unused fun _ _ _ => ?_
  · obtain ⟨refund, decided⟩ := invariant.decided refundRequestId watches
    exact ⟨refund, decided.of_same (by rw [refunds]) jobs intents (posted refundRequestId)⟩
  · rw [refunds]
    exact found
  · rw [refunds]

/-- The approval of a payout. -/
theorem keeps_approvePayout (invariant : DecisionInvariant watched calls state)
    {payoutId : PayoutId} {actorUserId : UserId}
    {keyed : ∀ payout, Keyed.key (approvedPayout actorUserId payout) = Keyed.key payout}
    (rewrites : state.database.Rewrites written books)
    (payouts : books = { state.database.toBooks with
      payouts := state.database.payouts.update payoutId (approvedPayout actorUserId) keyed }) :
    (decisionDiscipline watched calls).Keeps held state ⟨written, state.owner⟩ := by
  subst payouts
  refine keeps_undecided invariant rewrites rfl rfl (.refl _ _) List.prefix_rfl rfl
    (Table.Evolves.update _ _ _ _ keyed fun _ => rfl) invariant.unique invariant.known ?_ ?_
    (fun _ => Iff.rfl) fun target _ unused => ?_
  · refine invariant.settled.step (.refl _ _) (fun _ _ => rfl)
      (fun transaction member => .inl ⟨transaction, member, rfl⟩) fun payout member => .inl ?_
    obtain ⟨old, older, rfl⟩ :=
      @Table.exists_of_update _ _ state.database.payouts _ keyed _ _ member
    split_ifs
    · exact ⟨old, older, rfl, by simp [approvedPayout]⟩
    · exact ⟨old, older, rfl, .inl⟩
  · exact invariant.keys.step (.refl _ _) (Table.Evolves.update _ _ _ _ keyed fun _ => rfl)
      (fun _ _ _ refund present _ link => ⟨refund, present, rfl, link⟩)
      (fun transaction member => .inl ⟨transaction, member, rfl⟩)
      fun refund member _ link => .inl ⟨refund, member, rfl, link⟩
  · refine unused.of_same ?_ rewrites.events
    rw [rewrites.books]

/-- The settlement of a payout, with its transaction and its entries. -/
theorem keeps_recordPayout (invariant : DecisionInvariant watched calls state)
    {payoutRecord updatedPayout : Payout} {actorUserId : UserId} {dto : ProcessPayoutDto}
    {answer : GatewayResult} {transactionId : TransactionId} {now : Time}
    {entries : List LedgerEntry}
    (rewrites : state.database.Rewrites written (state.database.paidOut payoutRecord
      actorUserId dto answer transactionId now entries))
    (keys : ∀ key ∈ Procedure.transactionKeys (payoutRow payoutRecord dto answer now
      transactionId), key ∈ held)
    (unused : ∀ key ∈ Procedure.transactionKeys (payoutRow payoutRecord dto answer now
      transactionId), key.Unused state.database)
    (updated : ∃ stored, state.database.payouts.find? payoutRecord.id = some stored ∧
      updatedPayout.fixed = stored.fixed)
    (posts : updatedPayout.Posts answer transactionId actorUserId entries) :
    (decisionDiscipline watched calls).Keeps held state ⟨written, state.owner⟩ := by
  have records := records_paidOut (unused_transactionKeys_iff.mp unused) posts
  have evolve : Table.Evolves Payout.fixed state.database.payouts (state.database.paidOut
      payoutRecord actorUserId dto answer transactionId now entries).payouts := by
    refine Table.Evolves.update _ _ _ _ ?_ ?_
    · exact fun _ => rfl
    · exact fun _ => rfl
  unfold Payout.Posts at posts
  obtain ⟨stored, found, sameTerms⟩ := updated
  have pair : answer.status = .succeeded → ∀ payout ∈ (state.database.paidOut
      payoutRecord actorUserId dto answer transactionId now entries).payouts,
      payout.id = payoutRecord.id → payout.Pair transactionId entries := by
    intro succeeded payout present sameId
    rw [if_pos succeeded] at posts
    refine ⟨actorUserId, posts.trans ?_⟩
    have same : payout.fixed = stored.fixed := by
      refine evolve.fixed_eq ?_ present
      rw [key_payout, sameId, found]
    change payoutEntries updatedPayout.fixed _ _ = payoutEntries payout.fixed _ _
    rw [sameTerms, same]
  refine keeps_undecided invariant rewrites rfl rfl (.place _ _ _)
    (List.prefix_append _ _) rfl evolve
    (records.uniqueKeys invariant.unique) (records.entriesKnown invariant.known) ?_
    (invariant.keys.paidOut (Option.isSome_iff_exists.mpr ⟨stored, found⟩))
    (fun refundRequestId => ?_) (unused_of_records rewrites records keys)
  · refine records.settledOnce invariant.known invariant.settled (fun isRefund => nomatch isRefund)
      (fun payout present isPayout => ?_) fun payout present => ?_
    · have sameId : payout.id = payoutRecord.id :=
        (payoutIdempotencyKey_inj.mp isPayout.2).symm
      by_cases succeeded : answer.status = .succeeded
      · exact .inr (pair succeeded payout present sameId)
      · rw [if_neg succeeded] at posts
        exact .inl posts
    · obtain ⟨old, older, sameRow⟩ := @Table.exists_of_update _ _ state.database.payouts
        (settledPayout payoutRecord actorUserId
          (payoutRow payoutRecord dto answer now transactionId) answer.status)
        (fun _ => rfl) _ _ present
      by_cases sameId : Keyed.key old = payoutRecord.id
      · rw [if_pos sameId] at sameRow
        subst sameRow
        refine ⟨old, older, rfl, fun paid => .inr ⟨⟨rfl, ?_⟩, ?_⟩⟩
        · exact (congrArg payoutIdempotencyKey sameId).symm
        · exact pair (nextPayoutStatus_eq_paid.mp paid) _ present sameId
      · rw [if_neg sameId] at sameRow
        subst sameRow
        exact ⟨payout, older, rfl, .inl⟩
  · rw [records.refundPosted_iff invariant.known, or_iff_left]
    exact fun both => nomatch both.1.1

end Commits

end Tchuno.Payments
