import Tchuno.Payments.ChargedOnce
import Tchuno.Payments.Uniqueness

/-!
# Deliveries which are answered as duplicates

`handleWebhook` commits the event in a step of its own, before it looks for the
transaction and before it applies the status.  A delivery which stops in between, or
which finds no transaction, leaves an event behind for which every later delivery is
answered as a duplicate.  As long as every stored event that is found again has been
processed, an answer of this kind is right.
-/

namespace Tchuno.Payments

open Tchuno.Library Tchuno.Library.Ecma

/-! ## What was applied -/

/-- A delivery of the event has applied its status to the transaction. -/
def Database.HasApplied (database : Database) (event : PaymentProvider × String)
    (transactionId : TransactionId) : Prop :=
  ∃ report ∈ database.applied,
    report.event = some event ∧ report.transactionId = transactionId

/-- Every processed event was applied to the transaction it is linked to. -/
def EventsApplied (database : Database) : Prop :=
  ∀ event ∈ database.events, event.processed = true →
    ∀ externalEventId, event.externalEventId = some externalEventId →
      ∃ transactionId, event.transactionId = some transactionId ∧
        database.HasApplied (event.provider, externalEventId) transactionId

theorem Database.HasApplied.of_grows {before after : Database}
    {event : PaymentProvider × String} {transactionId : TransactionId}
    (applied : before.HasApplied event transactionId) (grows : before.Grows after) :
    after.HasApplied event transactionId := by
  obtain ⟨report, member, about⟩ := applied
  exact ⟨report, grows.applied.subset member, about⟩

/-- Only the events decide, since the history gets longer. -/
theorem EventsApplied.of_keeps {before after : Database} (applied : EventsApplied before)
    (kept : Database.Keeps (fun database => database.events) before after) :
    EventsApplied after := by
  intro event member processed externalEventId identified
  have sameEvents : after.events = before.events := kept.2
  rw [sameEvents] at member
  obtain ⟨transactionId, linked, reported⟩ :=
    applied event member processed externalEventId identified
  exact ⟨transactionId, linked, reported.of_grows kept.1⟩

/-- An event which is stored for the first time is not processed. -/
theorem EventsApplied.place {database : Database} (applied : EventsApplied database)
    {event : PaymentEvent} (unprocessed : event.processed = false) :
    EventsApplied { database with events := database.events.place event } := by
  intro stored member processed
  rcases Table.eq_or_mem_of_place member with rfl | older
  · rw [unprocessed] at processed
    cases processed
  · exact applied stored older processed

/-- The event is stored, whatever was recorded in it since. -/
def PaymentEvent.StoredIn (event : PaymentEvent) (database : Database) : Prop :=
  ∃ row, database.events.find? event.id = some row ∧ row.fixed = event.fixed

theorem PaymentEvent.StoredIn.of_grows {event : PaymentEvent} {before after : Database}
    (stored : event.StoredIn before) (grows : before.Grows after) : event.StoredIn after := by
  obtain ⟨row, found, same⟩ := stored
  obtain ⟨later, foundLater, kept⟩ := grows.events _ row found
  exact ⟨later, foundLater, kept.trans same⟩

/-- The event may be closed in this way: if as processed, it was applied before. -/
structure PaymentEvent.Closable (event : PaymentEvent) (processed : Bool)
    (transaction : Option PaymentTransaction) (database : Database) : Prop where
  stored : event.StoredIn database
  applied : processed = true → ∀ externalEventId,
    event.externalEventId = some externalEventId →
      ∃ target, transaction = some target ∧
        database.HasApplied (event.provider, externalEventId) target.id

theorem PaymentEvent.Closable.of_grows {event : PaymentEvent} {processed : Bool}
    {transaction : Option PaymentTransaction} {before after : Database}
    (closable : event.Closable processed transaction before) (grows : before.Grows after) :
    event.Closable processed transaction after where
  stored := closable.stored.of_grows grows
  applied := fun closed externalEventId identified => by
    obtain ⟨target, linked, reported⟩ := closable.applied closed externalEventId identified
    exact ⟨target, linked, reported.of_grows grows⟩

theorem EventsApplied.close {database : Database} (applied : EventsApplied database)
    {event : PaymentEvent} {processed : Bool} {transaction : Option PaymentTransaction}
    (closable : event.Closable processed transaction database) (now : Time) :
    EventsApplied
      { database with
        events := database.events.update event.id
          (Procedure.closedEvent processed transaction now) fun _ => rfl } := by
  intro row member closed externalEventId identified
  obtain ⟨old, oldMember, rfl⟩ := @Table.exists_of_update _ _ database.events
    (Procedure.closedEvent processed transaction now) (fun _ => rfl) _ _ member
  by_cases about : Keyed.key old = event.id
  · rw [if_pos about] at closed identified ⊢
    obtain ⟨stored, found, same⟩ := closable.stored
    obtain rfl : stored = old :=
      database.events.eq_of_key_eq (database.events.mem_of_find? found) oldMember
        ((database.events.key_of_find? found).trans about.symm)
    have sameProvider : stored.provider = event.provider :=
      field_eq same PaymentEvent.provider fun _ => rfl
    have sameEvent : stored.externalEventId = event.externalEventId :=
      field_eq same PaymentEvent.externalEventId fun _ => rfl
    obtain ⟨target, linked, reported⟩ :=
      closable.applied closed externalEventId (sameEvent ▸ identified)
    refine ⟨target.id, by simp [Procedure.closedEvent, linked], ?_⟩
    change database.HasApplied (stored.provider, externalEventId) target.id
    rw [sameProvider]
    exact reported
  · rw [if_neg about] at closed identified ⊢
    exact applied old oldMember closed externalEventId identified

/-! ## The claim and its condition -/

/-- If the call is a delivery with a status which was answered as a duplicate, then its
event had been applied, by the time of the answer, to the transaction the delivery is
about: the one found at the time of the answer or, if there was none, a later one. -/
def ChargeCall.NotSwallowed (call : ChargeCall) (reply : Except ApiError ChargeReply)
    (answered : Option Database) (present : Database) : Prop :=
  match call, reply with
  | .handleWebhook _ provider dto _ _ _, .ok (.webhook (.deduplicated _)) =>
      (truthy dto.status).isSome = true → ∀ transaction,
        (answered.bind fun database => database.webhookTransaction? provider dto).or
          (present.webhookTransaction? provider dto) = some transaction →
        ∃ externalEventId database, dto.externalEventId.map trim = some externalEventId ∧
          answered = some database ∧
          database.HasApplied (provider, externalEventId) transaction.id
  | _, _ => True

/-- If the statement is the look of a delivery with a status for its event, then an
event which it finds is processed and linked to the transaction the delivery is about. -/
def ChargeCall.FindsProcessed (call : ChargeCall) (statement : Statement Target)
    (database : Database) : Prop :=
  match call with
  | .handleWebhook _ provider dto _ _ _ =>
      (truthy dto.status).isSome = true →
      (truthy (dto.externalEventId.map trim)).isSome = true →
      statement = .look (.eventKey provider (dto.externalEventId.map trim)) →
        ∀ event ∈ database.events,
          event.provider = provider → event.externalEventId = dto.externalEventId.map trim →
            event.processed = true ∧
              event.transactionId =
                (database.webhookTransaction? provider dto).map PaymentTransaction.id
  | _ => True

instance (call : ChargeCall) (statement : Statement Target) (database : Database) :
    Decidable (call.FindsProcessed statement database) :=
  match call with
  | .handleWebhook _ _ _ _ _ _ => inferInstanceAs (Decidable (_ → _))
  | .payIntent _ _ _ _ _ _ => isTrue trivial
  | .reconcileTransaction _ _ _ => isTrue trivial

theorem webhookGate_deduplicated {environment : WebhookEnvironment}
    {provider : PaymentProvider} {dto : PaymentWebhookDto} {headers : WebhookHeaders}
    {now : Time} {store : Store} {event : PaymentEvent}
    (gate : webhookGate environment provider dto headers now store =
      .ok (.deduplicated event)) :
    (truthy (dto.externalEventId.map trim)).isSome = true ∧ event ∈ store.events ∧
      event.provider = provider ∧ event.externalEventId = dto.externalEventId.map trim := by
  have found : (if (truthy (dto.externalEventId.map trim)).isSome = true then
      store.events.findFirst? fun event =>
        event.provider = provider && event.externalEventId = dto.externalEventId.map trim
      else none) = some event := by
    by_cases external : provider = .internal
    · simp only [webhookGate, external, ne_eq, not_true_eq_false, if_false] at gate
      rw [external]
      split at gate
      · next existing found =>
          simp only [pure, Except.pure, Except.ok.injEq, WebhookGate.deduplicated.injEq] at gate
          exact found.trans (congrArg some gate)
      · cases gate
    · simp only [webhookGate, ne_eq, external, not_false_eq_true, if_true,
        gate_bind_eq_ok] at gate
      obtain ⟨_, _, _, _, decided⟩ := gate
      split at decided
      · next existing found =>
          simp only [pure, Except.pure, Except.ok.injEq, WebhookGate.deduplicated.injEq] at decided
          exact found.trans (congrArg some decided)
      · cases decided
  by_cases identified : (truthy (dto.externalEventId.map trim)).isSome = true
  · rw [if_pos identified] at found
    obtain ⟨member, matched⟩ := Table.mem_of_findFirst? _ found
    simp only [Bool.and_eq_true, decide_eq_true_eq] at matched
    exact ⟨identified, member, matched⟩
  · rw [if_neg identified] at found
    cases found

/-! ## The discipline of the events -/

/-- The lock on an identifier keeps others from storing an event under it. -/
def eventDiscipline {ι : Type} (calls : ι → ChargeCall) :
    Discipline Database Database Target ι where
  data := id
  invariant := EventsApplied
  same := fun row before after => ∀ eventId, row = .event eventId →
    before.events.find? eventId = none → after.events.find? eventId = none
  grows := Database.Grows
  allowed := fun client _ statement database => (calls client).FindsProcessed statement database

@[simp]
theorem eventDiscipline_data {ι : Type} (calls : ι → ChargeCall) (database : Database) :
    (eventDiscipline calls).data database = database := rfl

section Safety

variable {ι : Type} {calls : ι → ChargeCall} {client : ι}

theorem eventDiscipline_tolerates :
    (eventDiscipline calls).Tolerates (Database.Keeps fun database => database.events) where
  refl := Database.Keeps.refl
  trans := Database.Keeps.trans
  keeps := by
    intro before after kept applied
    refine ⟨after, rfl, EventsApplied.of_keeps applied kept, kept.1, ?_⟩
    intro row _ eventId _ unused
    have sameEvents : after.events = before.events := kept.2
    rw [sameEvents]
    exact unused

/-- What cannot be undone is known from then on. -/
theorem stable_of_grows {know : Database → Prop}
    (monotone : ∀ before after, Database.Grows before after → know before → know after)
    (held : Set Target) : (eventDiscipline calls).Stable held know :=
  fun before after _ _ grows knows => monotone before after grows knows

theorem keepsUnused_eventKeys (event : PaymentEvent) :
    KeepsUnused (eventDiscipline calls) (Procedure.eventKeys event) := by
  intro key _ before after same unused
  cases key with
  | event eventId =>
      exact same eventId rfl unused
  | eventKey provider externalEventId =>
      trivial
  | _ =>
      simp_all [Procedure.eventKeys]

/-- The event is committed as it came. -/
theorem safe_createEvent {finish : Except ApiError Unit → Standing Database Database Target → Prop}
    (seen : Option Database) {event : PaymentEvent} (unprocessed : event.processed = false)
    (stored : ∀ seen, finish (.ok ()) ⟨seen, ∅, id, event.StoredIn⟩)
    (failed : ∀ error middle, finish (.error error) middle) :
    (eventDiscipline calls).Safe client finish ⟨seen, ∅, id, fun _ => True⟩
      (Procedure.createEvent event) := by
  refine Discipline.safe_transaction (Procedure.safe_create (keepsUnused_eventKeys event)
    (Discipline.stable_true _) (fun database _ _ admitted => ?_)
    (fun _ held _ locked _ => ?_) fun _ _ _ _ _ _ _ => ?_)
  · have absent : database.events.find? event.id = none := by
      simp only [Bool.and_eq_true, Option.isNone_iff_eq_none] at admitted
      exact admitted.1
    intro key member
    cases key with
    | event eventId =>
        obtain rfl : eventId = event.id := by simpa [Procedure.eventKeys] using member
        exact absent
    | eventKey provider externalEventId =>
        trivial
    | _ =>
        simp [Procedure.eventKeys] at member
  · rintro database applied ⟨_, unused⟩ _
    have absent : database.events.find? event.id = none :=
      unused (.event event.id) (by simp [Procedure.eventKeys])
    refine ⟨{ database with events := database.events.place event }, rfl,
      ⟨EventsApplied.place applied unprocessed, .of_events (.place _ _ _), ?_⟩,
      event.StoredIn, ?_, ?_, stored _⟩
    · rintro _ unlocked eventId rfl free
      change (database.events.place event).find? eventId = none
      have apart : eventId ≠ event.id := by
        rintro rfl
        exact unlocked (locked _ (by simp [Procedure.eventKeys]))
      rw [Table.find?_place, if_neg fun both => apart both.1]
      exact free
    · refine ⟨event, ?_, rfl⟩
      change (database.events.place event).find? event.id = some event
      rw [Table.find?_place, if_pos ⟨rfl, absent⟩]
    · exact stable_of_grows (fun _ _ grows known => known.of_grows grows) _
  · exact ⟨fun _ => True, fun _ _ _ => trivial, Discipline.stable_true _, failed _ _⟩

/-- A closed event keeps the discipline if it may be closed. -/
theorem safe_closeEvent
    {finish : Except ApiError PaymentEvent → Standing Database Database Target → Prop}
    (seen : Option Database) {event : PaymentEvent} {processed : Bool}
    {transaction : Option PaymentTransaction} (now : Time) {know : Database → Prop}
    (stable : ∀ held, (eventDiscipline calls).Stable held know)
    (closable : ∀ database, know database → event.Closable processed transaction database)
    (closed : ∀ result middle, finish result middle) :
    (eventDiscipline calls).Safe client finish ⟨seen, ∅, id, know⟩
      (Procedure.closeEvent event.id processed transaction now) := by
  refine Discipline.safe_transaction (Procedure.safe_update (fun _ _ knows _ => knows)
    (stable _) (fun database _ _ knows _ => ⟨_, knows, stable _, ?_⟩) fun _ _ _ _ => ?_)
  · intro later applied knows _
    refine ⟨_, rfl, ⟨EventsApplied.close applied (closable later knows) now,
      .of_events (.update _ _ _ _ _ fun _ => rfl), ?_⟩,
      fun _ => True, trivial, Discipline.stable_true _, closed _ _⟩
    rintro _ _ eventId rfl free
    simp only [id_eq, eventDiscipline_data, Table.find?_update, free,
      Option.map_none, ite_self]
  · exact ⟨fun _ => True, fun _ _ _ => trivial, Discipline.stable_true _, closed _ _⟩

/-! ## The status of a delivery -/

theorem eventView_free :
    Procedure.FreeOfRows fun database : Database => database.events where
  jobs := fun _ _ => rfl
  intents := fun _ _ => rfl
  transactions := fun _ _ _ => rfl

/-- The status is pending in the transaction, with the mark of its event. -/
structure Reporting (event : PaymentEvent) (transactionId : TransactionId)
    (standing : Standing Database Database Target) : Prop where
  know : standing.know = event.StoredIn
  kept : ∀ database, Database.Keeps (fun database => database.events) database
    (standing.pending database)
  reported : ∀ database externalEventId, event.externalEventId = some externalEventId →
    (standing.pending database).HasApplied (event.provider, externalEventId) transactionId

section Delivery

variable {event : PaymentEvent}
  {finish : Except ApiError PaymentTransaction → Standing Database Database Target → Prop}
  (applied : ∀ updated seen,
    finish (.ok updated) ⟨seen, ∅, id, event.Closable true (some updated)⟩)
  (failed : ∀ error middle, finish (.error error) middle)

include applied in
theorem closes_reporting {updated : PaymentTransaction} {transactionId : TransactionId}
    (sameId : updated.id = transactionId) {middle : Standing Database Database Target}
    (reporting : Reporting event transactionId middle) :
    (eventDiscipline calls).Closes client finish (.ok updated) middle := by
  subst sameId
  intro database invariant knows _
  obtain ⟨after, rfl, keeps⟩ :=
    eventDiscipline_tolerates.keeps (reporting.kept database) invariant
  rw [reporting.know] at knows
  refine ⟨_, rfl, keeps.mono (Set.empty_subset _), event.Closable true (some updated), ?_, ?_,
    applied updated _⟩
  · exact ⟨knows.of_grows (reporting.kept database).1, fun _ externalEventId identified =>
      ⟨updated, rfl, reporting.reported database externalEventId identified⟩⟩
  · exact stable_of_grows (fun _ _ grows closable => closable.of_grows grows) _

variable (client) in
include failed in
theorem closes_failed (error : ApiError) (middle : Standing Database Database Target) :
    (eventDiscipline calls).Closes client finish (.error error) middle :=
  ⟨fun _ => True, fun _ _ _ => trivial, Discipline.stable_true _, failed _ _⟩

include applied failed

/-- The transaction of a delivery commits the mark of its event. -/
theorem safe_applyGatewayStatus (transaction : PaymentTransaction)
    (status : GatewayOperationStatus) (rawPayload : Option Json) (reason : Option String)
    (now : Time) (seen : Option Database) :
    (eventDiscipline calls).Safe client ((eventDiscipline calls).Closes client finish)
      ⟨seen, ∅, id, event.StoredIn⟩
      (Procedure.applyGatewayStatus
        (event.externalEventId.map fun externalEventId => (event.provider, externalEventId))
        transaction status rawPayload reason now) := by
  have stable : ∀ held, (eventDiscipline calls).Stable held event.StoredIn :=
    stable_of_grows fun _ _ grows known => known.of_grows grows
  refine Discipline.safe_script_bind (Procedure.safe_update (fun _ _ knows _ => knows)
    (stable _) (fun database row _ knows found => ⟨_, knows, stable _, ?_⟩)
    fun _ _ _ _ => closes_failed client failed _ _)
  have sameId : row.id = transaction.id := Table.key_of_find? _ found
  simp only [Discipline.Continues, settledRow_paymentIntentId, settledRow_id, sameId]
  have reporting : Reporting event transaction.id
      ⟨some database, insert (.transaction transaction.id) ∅, fun later =>
        { later with
          transactions := later.transactions.update transaction.id
            (settledRow transaction status rawPayload reason now)
          applied := ⟨event.externalEventId.map fun externalEventId =>
            (event.provider, externalEventId), transaction.id, status⟩ :: later.applied },
        event.StoredIn⟩ :=
    { know := rfl
      kept := fun later => ⟨.of_settled transaction status rawPayload reason now _, rfl⟩
      reported := fun later externalEventId identified =>
        ⟨_, List.mem_cons_self, by rw [identified]; rfl, rfl⟩ }
  have closes : ∀ middle, Reporting event transaction.id middle →
      (eventDiscipline calls).Closes client finish
        (.ok (settledRow transaction status rawPayload reason now row)) middle :=
    fun middle reporting =>
      @closes_reporting _ calls client _ _ applied
        (settledRow transaction status rawPayload reason now row) _ sameId _ reporting
  cases row.paymentIntentId with
  | none =>
      exact closes _ reporting
  | some intentId =>
      refine Discipline.safe_script_bind ?_
      refine Discipline.safe_of_leaves_inside Database.Keeps.refl Database.Keeps.trans
        (Procedure.leaves_applyToIntent eventView_free (fun _ _ _ => rfl) intentId now)
        (stable _) ?_
      intro result last held know kept
      cases result with
      | error error =>
          exact closes_failed client failed error last
      | ok _ =>
          refine closes last ⟨know.trans reporting.know, ?_, ?_⟩
          · exact fun later => (reporting.kept later).trans (kept later)
          · exact fun later externalEventId identified =>
              (reporting.reported later externalEventId identified).of_grows (kept later).1

end Delivery

/-! ## Deliveries -/

section Handling

variable {event : PaymentEvent}

theorem storedIn_stable (held : Set Target) :
    (eventDiscipline calls).Stable held event.StoredIn :=
  stable_of_grows (fun _ _ grows known => known.of_grows grows) held

/-- The lookups of the transaction are reads outside a database transaction. -/
theorem safe_webhookTransaction
    {finish : Except ApiError (Option PaymentTransaction) →
      Standing Database Database Target → Prop}
    (provider : PaymentProvider) (dto : PaymentWebhookDto) (seen : Option Database)
    (found : ∀ transaction seen, finish (.ok transaction) ⟨seen, ∅, id, event.StoredIn⟩) :
    (eventDiscipline calls).Safe client finish ⟨seen, ∅, id, event.StoredIn⟩
      (Procedure.webhookTransaction provider dto) := by
  have byReference : ∀ named seen, (eventDiscipline calls).Safe client finish
      ⟨seen, ∅, id, event.StoredIn⟩
      (match named, truthy dto.providerReference with
        | some transaction, _ => pure (some transaction)
        | none, some reference =>
            Script.select (.transactionReference provider reference) fun database =>
              database.transactions.findFirst? fun transaction =>
                transaction.provider = provider &&
                  transaction.providerReference = some reference
        | none, none => pure none : Procedure (Option PaymentTransaction)) := by
    intro named seen
    cases named with
    | some transaction =>
        exact found _ _
    | none =>
        cases truthy dto.providerReference with
        | none =>
            exact found _ _
        | some reference =>
            exact fun _ _ knows _ => ⟨event.StoredIn, knows, storedIn_stable _, found _ _⟩
  refine Discipline.safe_script_bind ?_
  unfold Procedure.namedTransaction
  cases dto.transactionId with
  | none =>
      exact byReference _ _
  | some transactionId =>
      exact fun _ _ knows _ => ⟨event.StoredIn, knows, storedIn_stable _, byReference _ _⟩

variable {finish : Except ApiError WebhookReply → Standing Database Database Target → Prop}
  (others : ∀ result middle, (∀ eventId, result ≠ .ok (.deduplicated eventId)) →
    finish result middle)

include others

/-- What follows once the event is stored. -/
theorem safe_handleEvent (provider : PaymentProvider) (dto : PaymentWebhookDto)
    (identified : Procedure.deliveredEvent provider dto =
      event.externalEventId.map fun externalEventId => (event.provider, externalEventId))
    (now : Time) (seen : Option Database) :
    (eventDiscipline calls).Safe client finish ⟨seen, ∅, id, event.StoredIn⟩
      (Procedure.handleEvent provider dto event.id now) := by
  have closes : ∀ processed transaction reply seen (know : Database → Prop),
      (∀ eventId, reply ≠ .deduplicated eventId) →
      (∀ held, (eventDiscipline calls).Stable held know) →
      (∀ database, know database → event.Closable processed transaction database) →
      (eventDiscipline calls).Safe client finish ⟨seen, ∅, id, know⟩
        (Procedure.closeEvent event.id processed transaction now >>= fun _ => pure reply :
          Procedure WebhookReply) := by
    intro processed transaction reply seen know other stable closable
    refine Discipline.safe_script_bind (safe_closeEvent seen now stable closable ?_)
    intro result middle
    cases result with
    | error error =>
        exact others _ _ fun _ => by simp
    | ok _ =>
        exact others _ _ fun eventId same => other eventId (Except.ok.inj same)
  have unprocessed : ∀ transaction seen, (eventDiscipline calls).Safe client finish
      ⟨seen, ∅, id, event.StoredIn⟩
      (Procedure.closeEvent event.id false transaction now >>=
        fun _ => pure (.unprocessed event.id) : Procedure WebhookReply) := fun transaction seen =>
    closes false transaction _ seen _ (fun _ => by simp) storedIn_stable
      fun _ stored => ⟨stored, fun processed => nomatch processed⟩
  refine Discipline.safe_script_bind (safe_webhookTransaction provider dto seen ?_)
  intro transaction seen
  cases transaction with
  | none =>
      exact unprocessed none seen
  | some transaction =>
      simp only [Discipline.Continues]
      cases truthy dto.status with
      | none =>
          exact unprocessed (some transaction) seen
      | some status =>
          refine Discipline.safe_script_bind (Discipline.safe_transaction ?_)
          refine Discipline.safe_consult_bind fun database _ knows _ => ?_
          refine ⟨event.StoredIn, knows, storedIn_stable _, ?_⟩
          simp only [id_eq, eventDiscipline_data]
          have failed : ∀ (error : ApiError) middle,
              (eventDiscipline calls).Continues client finish
                (fun updated => Procedure.closeEvent event.id true (some updated) now >>=
                  fun _ => pure (.processed event.id updated.id) :
                  PaymentTransaction → Procedure WebhookReply) (.error error) middle :=
            fun error middle => others _ _ fun _ => by simp
          cases opened : database.transactions.find? transaction.id with
          | none =>
              exact closes_failed client failed _ _
          | some transactionRecord =>
              rw [identified]
              refine safe_applyGatewayStatus (fun updated seen => ?_) failed _ _ _ _ _ _
              refine closes true (some updated) _ seen _ (fun _ => by simp) ?_
                fun _ closable => closable
              exact stable_of_grows fun _ _ grows closable => closable.of_grows grows

/-- A delivery which is not answered as a duplicate keeps the discipline. -/
theorem safe_handleWebhook {environment : WebhookEnvironment} {provider : PaymentProvider}
    {dto : PaymentWebhookDto} {headers : WebhookHeaders} {eventId : Nat} {now : Time}
    (deduplicated : ∀ database event, EventsApplied database →
      (calls client).FindsProcessed (.look (.eventKey provider (dto.externalEventId.map trim)))
        database →
      webhookGate environment provider dto headers now database.toStore =
        .ok (.deduplicated event) →
      finish (.ok (.deduplicated event.id)) ⟨some database, ∅, id, fun _ => True⟩) :
    (eventDiscipline calls).Safe client finish (Standing.initial Database Database Target)
      (Procedure.handleWebhook environment provider dto headers eventId now) := by
  refine Discipline.safe_consult_bind fun database applied _ finds => ?_
  refine ⟨fun _ => True, trivial, Discipline.stable_true _, ?_⟩
  simp only [Standing.initial, id_eq, eventDiscipline_data]
  cases gate : webhookGate environment provider dto headers now database.toStore with
  | error error =>
      exact others _ _ fun _ => by simp
  | ok decision =>
      cases decision with
      | deduplicated event =>
          exact deduplicated database event applied finds gate
      | accepted signatureValid =>
          refine Discipline.safe_script_bind (safe_createEvent _ rfl (fun seen => ?_)
            fun error middle => others _ _ fun _ => by simp)
          exact safe_handleEvent others provider dto rfl now seen

end Handling

/-! ## Runs -/

/-- A duplicate which finds its event processed, for its transaction, was applied. -/
theorem notSwallowed_deduplicated {call : ChargeCall} {environment : WebhookEnvironment}
    {provider : PaymentProvider} {dto : PaymentWebhookDto} {headers : WebhookHeaders}
    {eventId : Nat} {now : Time}
    (delivery : call = .handleWebhook environment provider dto headers eventId now)
    {answered : Database} {event : PaymentEvent} (applied : EventsApplied answered)
    (finds : call.FindsProcessed
      (.look (.eventKey provider (dto.externalEventId.map trim))) answered)
    (gate : webhookGate environment provider dto headers now answered.toStore =
      .ok (.deduplicated event)) (present : Database) :
    call.NotSwallowed (.ok (.webhook (.deduplicated event.id))) (some answered) present := by
  subst delivery
  intro reported transaction about
  obtain ⟨identified, member, sameProvider, sameEvent⟩ := webhookGate_deduplicated gate
  obtain ⟨externalEventId, identifier⟩ := Option.isSome_iff_exists.mp identified
  have named : dto.externalEventId.map trim = some externalEventId :=
    (Option.filter_eq_some_iff.mp identifier).1
  obtain ⟨processed, linked⟩ := finds reported identified rfl event member sameProvider sameEvent
  obtain ⟨transactionId, stored, mark⟩ :=
    applied event member processed externalEventId (sameEvent.trans named)
  obtain ⟨target, found, sameId⟩ := Option.map_eq_some_iff.mp (linked.symm.trans stored)
  obtain rfl : target = transaction := by
    simpa [found] using about
  refine ⟨externalEventId, answered, named, rfl, ?_⟩
  rw [← sameProvider, sameId]
  exact mark

theorem safe_procedure (client : ι) :
    (eventDiscipline calls).Safe client
      ((eventDiscipline calls).Ends (fun client reply answered present =>
        (calls client).NotSwallowed reply answered present) client)
      (Standing.initial Database Database Target) (calls client).procedure := by
  have quiet : ∀ {script : Procedure ChargeReply},
      (∀ reply answered present, (calls client).NotSwallowed reply answered present) →
      (eventDiscipline calls).Carries client
        (Database.Keeps fun database => database.events) script →
      (eventDiscipline calls).Safe client
        ((eventDiscipline calls).Ends (fun client reply answered present =>
          (calls client).NotSwallowed reply answered present) client)
        (Standing.initial Database Database Target) script := fun always carries =>
    carries _ _ (eventDiscipline_tolerates.steady none) fun _ _ _ _ _ _ => always _ _ _
  have reports : ∀ event transaction status rawPayload reason now,
      (eventDiscipline calls).CarriesInside client
        (Database.Keeps fun database => database.events)
        (Procedure.applyGatewayStatus event transaction status rawPayload reason now) :=
    fun _ _ _ _ _ _ => eventDiscipline_tolerates.carriesInside
      (Procedure.leaves_applyGatewayStatus eventView_free (fun _ => rfl) (fun _ _ _ => rfl)
        rfl _ _ _)
  have creates : ∀ row, (Procedure.createTransaction row).Leaves
      (Database.Keeps fun database => database.events) True :=
    Procedure.leaves_createTransaction fun _ _ => rfl
  have reply : ∀ value : ChargeReply, (eventDiscipline calls).Carries client
      (Database.Keeps fun database => database.events) (pure value : Procedure ChargeReply) :=
    Procedure.carries_pure eventDiscipline_tolerates
  cases call : calls client with
  | payIntent intentId actorUserId dto answer created now =>
      refine quiet (fun _ _ _ => by rw [call]; trivial) ?_
      exact (Procedure.carries_payIntent eventDiscipline_tolerates reports creates
        intentId actorUserId dto answer created now).bind fun _ => reply _
  | reconcileTransaction reconciled answer now =>
      refine quiet (fun _ _ _ => by rw [call]; trivial) ?_
      exact (Procedure.carries_reconcileTransaction eventDiscipline_tolerates reports
        reconciled answer now).bind fun _ => reply _
  | handleWebhook environment provider dto headers eventId now =>
      refine Discipline.safe_script_bind (safe_handleWebhook ?_ ?_)
      · intro result middle other
        have silent : ∀ answered present, (calls client).NotSwallowed
            (result.map ChargeReply.webhook) answered present := by
          intro answered present
          rw [call]
          rcases result with error | deduplicated | unprocessed | processed
          · trivial
          · exact absurd rfl (other deduplicated)
          · trivial
          · trivial
        cases result with
        | error error =>
            exact fun present _ _ => silent middle.seen present
        | ok reply =>
            exact fun present _ _ => silent middle.seen present
      · exact fun answered event applied finds gate present _ _ =>
          notSwallowed_deduplicated call applied finds gate present

end Safety

/-- However deliveries, payments and reconciliations interleave, and wherever they
fail: if no delivery with a status finds its event unprocessed or linked to another
transaction, then no answer `deduplicated` swallows an event. -/
theorem duplicates_applied {ι : Type} [DecidableEq ι] {database : Database}
    (fresh : database.events.rows = []) (calls : ι → ChargeCall)
    {schedule : List (ι × Turn)} {final : Cluster Database Target ι (Except ApiError ChargeReply)}
    (ran : final = (readCommitted Database Target ι (Except ApiError ChargeReply)).run
      (Cluster.start database fun client => (calls client).procedure) schedule)
    (met : (readCommitted Database Target ι (Except ApiError ChargeReply)).Along
      (Cluster.Obeys fun client _ statement database =>
        (calls client).FindsProcessed statement database)
      (Cluster.start database fun client => (calls client).procedure) schedule)
    {client : ι} {reply : Except ApiError ChargeReply}
    (finished : (final.session client).program = .done reply) :
    (calls client).NotSwallowed reply (final.session client).seen final.data := by
  have applied : EventsApplied database := fun event member =>
    absurd (show event ∈ database.events.rows from member) (by simp [fresh])
  subst ran
  obtain ⟨after, lawful⟩ := (eventDiscipline calls).run_lawful applied safe_procedure met
  have ends := lawful.post_of_done finished
  rw [show after = _ from lawful.data] at ends
  exact ends

/-! ## A delivery which stops after its first step -/

section Sample

/-- Two deliveries of one event about the pending deposit. -/
def sampleRedelivery (client : Bool) : ChargeCall :=
  .handleWebhook sampleWebhookEnvironment .internal
    ⟨some "event", none, some 0, some "SUCCEEDED", none⟩ ⟨none, none⟩ client.toNat 3

def sampleDeliveries (schedule : List (Bool × Turn)) :
    Cluster Database Target Bool (Except ApiError ChargeReply) :=
  (readCommitted Database Target Bool (Except ApiError ChargeReply)).run
    (Cluster.start ⟨samplePendingStore, []⟩ fun client => (sampleRedelivery client).procedure)
    schedule

/-- The event of the reply, if the program has ended with a duplicate. -/
def duplicateOf? : Program Database Target (Except ApiError ChargeReply) → Option Nat
  | .done (.ok (.webhook (.deduplicated eventId))) => some eventId
  | _ => none

theorem done_of_duplicateOf?
    {program : Program Database Target (Except ApiError ChargeReply)} {eventId : Nat}
    (duplicate : duplicateOf? program = some eventId) :
    program = .done (.ok (.webhook (.deduplicated eventId))) := by
  unfold duplicateOf? at duplicate
  split at duplicate
  · rw [Option.some.inj duplicate]
  · cases duplicate

/-- The first delivery fails once its event is stored; the second comes afterwards. -/
def sampleCrash : List (Bool × Turn) :=
  List.replicate 6 (false, .advance) ++ [(false, .fail), (true, .advance)]

theorem crashed_event_swallowed :
    ∃ reply, ((sampleDeliveries sampleCrash).session true).program = .done reply ∧
      ¬ (sampleRedelivery true).NotSwallowed reply
        ((sampleDeliveries sampleCrash).session true).seen
        (sampleDeliveries sampleCrash).data := by
  have finished : duplicateOf? ((sampleDeliveries sampleCrash).session true).program =
      some 0 := by decide +kernel
  refine ⟨_, done_of_duplicateOf? finished, fun claim => ?_⟩
  have history : ((sampleDeliveries sampleCrash).session true).seen.map
      (fun database => database.applied) = some [] := by decide +kernel
  have target : ((sampleDeliveries sampleCrash).data.webhookTransaction? .internal
      ⟨some "event", none, some 0, some "SUCCEEDED", none⟩).isSome = true := by
    decide +kernel
  obtain ⟨answered, seen, unapplied⟩ := Option.map_eq_some_iff.mp history
  have about : ∃ transaction,
      (((sampleDeliveries sampleCrash).session true).seen.bind fun database =>
        database.webhookTransaction? .internal
          ⟨some "event", none, some 0, some "SUCCEEDED", none⟩).or
        ((sampleDeliveries sampleCrash).data.webhookTransaction? .internal
          ⟨some "event", none, some 0, some "SUCCEEDED", none⟩) = some transaction := by
    refine Option.isSome_iff_exists.mp ?_
    rw [Option.isSome_or, target, Bool.or_true]
  obtain ⟨transaction, about⟩ := about
  obtain ⟨_, database, _, same, report, member, _⟩ := claim rfl transaction about
  obtain rfl : answered = database := Option.some.inj (seen.symm.trans same)
  rw [unapplied] at member
  cases member

/-- The second delivery comes when the first is through. -/
def sampleRepetition : List (Bool × Turn) :=
  List.replicate 26 (false, .advance) ++ [(true, .advance)]

theorem repeated_event_applied :
    (sampleRedelivery true).NotSwallowed (.ok (.webhook (.deduplicated 0)))
      ((sampleDeliveries sampleRepetition).session true).seen
      (sampleDeliveries sampleRepetition).data := by
  have finished : duplicateOf? ((sampleDeliveries sampleRepetition).session true).program =
      some 0 := by decide +kernel
  refine duplicates_applied (by decide +kernel) sampleRedelivery rfl ?_
    (done_of_duplicateOf? finished)
  decide +kernel

end Sample

end Tchuno.Payments
