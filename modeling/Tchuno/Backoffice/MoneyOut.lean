import Tchuno.Backoffice.Confirmations
import Tchuno.Library.Origins

/-!
# Money leaves by confirmed administrators

Every refund, payout and release in the books goes back to a call of an administrator, who
had given its password for it no longer than half an hour before, and for nothing else.
-/

namespace Tchuno.Backoffice

open Tchuno.Library Tchuno.Library.Ecma Tchuno.Payments

variable {Digest : Type} [DecidableEq Digest] (setup : Setup Digest)

/-! ## Handlers -/

/-- Whose money the call may move. -/
def AdminPaymentsCall.payer? (userId : UserId) : AdminPaymentsCall → Option UserId
  | .createRefund .. => some userId
  | .approveRefund .. => some userId
  | .processPayout .. => some userId
  | .releaseFunds .. => some userId
  | _ => none

/-- Who may move money must have confirmed it. -/
theorem payer?_eq_none {call : AdminPaymentsCall} (userId : UserId)
    (uncritical : call.policy.reauth = none) : call.payer? userId = none := by
  cases call <;> first | rfl | cases uncritical

section Services

variable {setup} {call : AdminPaymentsCall} {userId : UserId} {now : Time} {store : Store}

theorem forget_state {α : Type} (action : Service α) (store : Store) :
    ((action >>= fun _ => pure ()) store).state = (action store).state :=
  Action.state_bind_of_reads (fun _ _ => rfl) store

omit [DecidableEq Digest] in
/-- The service of a route is a run of operations. -/
theorem service_run (call : AdminPaymentsCall) (userId : UserId) (now : Time) (store : Store) :
    ∃ operations, (call.service setup userId now store).state = payments.run store operations ∧
      ∀ operation ∈ operations,
        operation.payer? = none ∨ operation.payer? = call.payer? userId := by
  have single : ∀ operation : Operation,
      operation.payer? = none ∨ operation.payer? = call.payer? userId →
      (call.service setup userId now store).state = operation.perform store →
      ∃ operations,
        (call.service setup userId now store).state = payments.run store operations ∧
          ∀ operation ∈ operations,
            operation.payer? = none ∨ operation.payer? = call.payer? userId := by
    intro operation allowed same
    refine ⟨[operation], same, fun other member => ?_⟩
    rw [List.mem_singleton.mp member]
    exact allowed
  cases call with
  | read resource =>
      exact ⟨[], rfl, by simp⟩
  | createRefund dto answer =>
      exact single (.adminCreateRefund userId dto answer now) (.inr rfl) (forget_state _ store)
  | approveRefund id decisionNote answer =>
      exact single (.adminApproveRefund userId id decisionNote answer now) (.inr rfl)
        (forget_state _ store)
  | rejectRefund id dto =>
      exact single (.adminRejectRefund userId id dto now) (.inl rfl) (forget_state _ store)
  | createPayout dto =>
      exact single (.adminCreatePayout userId dto) (.inl rfl) (forget_state _ store)
  | approvePayout id =>
      exact single (.adminApprovePayout userId id) (.inl rfl) (forget_state _ store)
  | processPayout id dto answer =>
      exact single (.adminProcessPayout userId id dto answer now) (.inr rfl)
        (forget_state _ store)
  | releaseFunds jobId =>
      exact single (.adminReleaseProviderFunds setup.policy userId jobId now) (.inr rfl)
        (forget_state _ store)
  | reconcilePending limit minAgeMinutes turns =>
      obtain ⟨operations, same, unpaid⟩ := reconcilePending_run setup.reconciliation
        ⟨some .manual, limit, minAgeMinutes⟩ now turns store
      exact ⟨operations, (forget_state _ store).trans same, fun operation member =>
        .inl (unpaid operation member)⟩

omit [DecidableEq Digest] in
theorem service_consistent (consistent : store.Consistent) :
    (call.service setup userId now store).state.Consistent := by
  obtain ⟨operations, same, _⟩ := @service_run _ setup call userId now store
  rw [same]
  exact Machine.run_preserves payments (fun store => store.Consistent)
    (fun _ operation holds => perform_consistent holds operation) consistent operations

omit [DecidableEq Digest] in
theorem service_paidBy (consistent : store.Consistent) :
    store.PaidBy (call.payer? userId) (call.service setup userId now store).state.toBooks := by
  obtain ⟨operations, same, allowed⟩ := @service_run _ setup call userId now store
  rw [same]
  exact run_paidBy consistent allowed

end Services

/-! ## Steps -/

/-- What an event does to the challenges. -/
inductive ReauthStep (console : Console Digest) :
    Event → Auth.ReauthDatabase Digest → Prop where
  | kept {event : Event} (users : Table Auth.User) :
      ReauthStep console event { console.reauth with users := users }
  | expired {call : AdminPaymentsCall} {request : HttpRequest}
      (accept : Auth.ReauthChallenge Digest → Bool) :
      ReauthStep console (.admin call request) (console.reauth.consumeMany accept request.now)
  | redeemed {call : AdminPaymentsCall} {request : HttpRequest} {user : Auth.User}
      {purpose : Option String} {challenge : Auth.ReauthChallenge Digest}
      (letIn : LetIn setup call request user purpose challenge console) :
      ReauthStep console (.admin call request)
        (console.reauth.redeem challenge.id ⟨user.id, request.reauthToken.getD "", purpose⟩
          request.now)
  | issued {confirmation : Confirmation} {user : Auth.User}
      {reauth : Auth.ReauthDatabase Digest} (confirms : Confirms setup confirmation user console)
      (issued : Auth.Issued (setup.crypto.sha256 confirmation.reauthToken)
        (confirmation.input user.id) (confirmation.expiresAt setup) confirmation.request.now
        console.reauth reauth) :
      ReauthStep console (.confirm confirmation) reauth

theorem step_reauth (console : Console Digest) (event : Event) :
    ReauthStep setup console event ((backoffice setup).step console event).reauth := by
  cases event with
  | account write =>
      exact .kept (write.apply console.reauth.users)
  | operate operation =>
      exact .kept console.reauth.users
  | confirm confirmation =>
      change ReauthStep setup console _ (serveConfirm setup confirmation console).reauth
      have served := serveConfirm_cases setup confirmation console
      generalize serveConfirm setup confirmation console = after at served ⊢
      cases served with
      | refused barred logged => exact .kept console.reauth.users
      | issued confirms issued logged => exact .issued confirms issued
  | admin call request =>
      change ReauthStep setup console _ (serveAdmin setup call request console).reauth
      have served := serveAdmin_cases setup call request console
      generalize serveAdmin setup call request console = after at served ⊢
      cases served with
      | refused barred harmless logged =>
          rcases harmless with rfl | ⟨accept, rfl⟩
          · exact .kept console.reauth.users
          · exact .expired accept
      | routine uncritical => exact .kept console.reauth.users
      | critical letIn => exact .redeemed letIn

section Steps

variable {setup} {console : Console Digest} {event : Event}

theorem ReauthStep.later {reauth : Auth.ReauthDatabase Digest}
    (step : ReauthStep setup console event reauth) : console.reauth.Later reauth := by
  cases step with
  | kept users => exact Auth.ReauthDatabase.Later.refl console.reauth
  | expired accept => exact Auth.later_consumeMany
  | redeemed letIn => exact Auth.later_redeem _
  | issued confirms issued => exact issued.later

theorem step_store_consistent (consistent : console.store.Consistent) :
    ((backoffice setup).step console event).store.Consistent := by
  cases event with
  | account write =>
      exact consistent
  | operate operation =>
      exact perform_consistent consistent operation.val
  | confirm confirmation =>
      change (serveConfirm setup confirmation console).store.Consistent
      have served := serveConfirm_cases setup confirmation console
      generalize serveConfirm setup confirmation console = after at served ⊢
      cases served <;> exact consistent
  | admin call request =>
      change (serveAdmin setup call request console).store.Consistent
      have served := serveAdmin_cases setup call request console
      generalize serveAdmin setup call request console = after at served ⊢
      cases served with
      | refused barred harmless logged => exact consistent
      | routine uncritical => exact service_consistent consistent
      | critical letIn => exact service_consistent consistent

theorem clock_le_step (inOrder : InOrder console event) :
    console.clock ≤ ((backoffice setup).step console event).clock := by
  cases event with
  | account write => exact le_refl _
  | operate operation => exact le_refl _
  | confirm confirmation => exact inOrder _ rfl
  | admin call request => exact inOrder _ rfl

/-- Challenges can be relied on, and so can the books. -/
structure Console.Trusted (console : Console Digest) : Prop where
  sound : console.reauth.Sound
  dated : console.reauth.DatedBy console.clock
  consistent : console.store.Consistent

omit [DecidableEq Digest] in
theorem Console.Trusted.dated_at (trusted : console.Trusted) {now : Time}
    (later : console.clock ≤ now) : console.reauth.DatedBy now :=
  fun challenge member => (trusted.dated challenge member).trans later

theorem trusted_step (trusted : console.Trusted) (inOrder : InOrder console event) :
    ((backoffice setup).step console event).Trusted := by
  have later := @clock_le_step _ _ setup console event inOrder
  have step := step_reauth setup console event
  suffices kept : ((backoffice setup).step console event).reauth.Sound ∧
      ((backoffice setup).step console event).reauth.DatedBy
        ((backoffice setup).step console event).clock from
    ⟨kept.1, kept.2, step_store_consistent trusted.consistent⟩
  generalize ((backoffice setup).step console event).reauth = reauth at step ⊢
  cases step with
  | kept users =>
      exact ⟨⟨trusted.sound.hashes, trusted.sound.superseded, trusted.sound.once,
        trusted.sound.redeemed⟩, trusted.dated_at later⟩
  | expired accept =>
      exact ⟨Auth.sound_consumeMany trusted.sound,
        Auth.dated_consumeMany (trusted.dated_at later)⟩
  | redeemed letIn =>
      refine ⟨(Auth.accepts_of_judge letIn.accepted).sound trusted.sound
        (trusted.dated_at later), ?_⟩
      exact @Auth.dated_consumeMany _ console.reauth _ _ _ (trusted.dated_at later)
  | issued confirms issued =>
      exact ⟨issued.sound trusted.sound, issued.dated (trusted.dated_at later)⟩

omit [DecidableEq Digest] in
theorem Console.IsInitial.trusted (initial : console.IsInitial) : console.Trusted where
  sound := by
    refine ⟨?_, ?_, ?_, ?_⟩ <;> simp [initial.challenges, initial.redemptions]
  dated := by
    simp [Auth.ReauthDatabase.DatedBy, initial.challenges]
  consistent := by
    obtain ⟨market, same⟩ := initial.store
    rw [same]
    exact Books.initial_consistent

theorem audit_step : console.audit <:+ ((backoffice setup).step console event).audit := by
  cases event with
  | account write =>
      exact List.suffix_rfl
  | operate operation =>
      exact List.suffix_rfl
  | confirm confirmation =>
      change console.audit <:+ (serveConfirm setup confirmation console).audit
      have served := serveConfirm_cases setup confirmation console
      generalize serveConfirm setup confirmation console = after at served ⊢
      cases served with
      | refused barred logged => exact logged
      | issued confirms issued logged => exact logged
  | admin call request =>
      change console.audit <:+ (serveAdmin setup call request console).audit
      have served := serveAdmin_cases setup call request console
      generalize serveAdmin setup call request console = after at served ⊢
      cases served with
      | refused barred harmless logged => exact logged
      | routine uncritical => exact List.suffix_cons _ _
      | critical letIn => exact List.suffix_cons _ _

/-- A new challenge is that of a token which is issued. -/
theorem issued_of_new {challengeId : Auth.ChallengeId}
    (absent : console.reauth.challenges.find? challengeId = none)
    (present : (((backoffice setup).step console event).reauth.challenges.find?
      challengeId).isSome) :
    ∃ confirmation user, event = .confirm confirmation ∧
      Confirms setup confirmation user console ∧
        ((backoffice setup).step console event).reauth.challenges.find? challengeId =
          some (Auth.issuedChallenge (confirmation.input user.id)
            (setup.crypto.sha256 confirmation.reauthToken) (confirmation.expiresAt setup)
            confirmation.request.now challengeId) := by
  have unwritten : ∀ accept now,
      (console.reauth.consumeMany accept now).challenges.find? challengeId = none := by
    intro accept now
    rw [Auth.find?_consumeMany, absent, Option.map_none]
  have step := step_reauth setup console event
  generalize ((backoffice setup).step console event).reauth = reauth at step present ⊢
  cases step with
  | kept users =>
      rw [absent] at present
      cases present
  | expired accept =>
      rw [unwritten] at present
      cases present
  | @redeemed call request user purpose challenge letIn =>
      have none := unwritten (fun other => Keyed.key other == challenge.id) request.now
      change (Option.isSome ((console.reauth.consumeMany _ _).challenges.find? _)) = true
        at present
      rw [none] at present
      cases present
  | @issued confirmation user reauth confirms issued =>
      refine ⟨confirmation, user, rfl, confirms, ?_⟩
      have found := issued.find?_challenge challengeId
      rw [absent, Option.map_none] at found
      rw [found] at present ⊢
      split_ifs at present ⊢
      · rfl
      · cases present

end Steps

/-! ## Runs -/

section Runs

variable {setup} {start : Console Digest} {events : List Event}

theorem later_run (start : Console Digest) (events : List Event) :
    start.reauth.Later ((backoffice setup).run start events).reauth := by
  induction events generalizing start with
  | nil =>
      exact .refl _
  | cons event rest inductionHypothesis =>
      exact (step_reauth setup start event).later.trans (inductionHypothesis _)

theorem audit_run (start : Console Digest) (events : List Event) :
    start.audit <:+ ((backoffice setup).run start events).audit := by
  induction events generalizing start with
  | nil =>
      exact List.suffix_rfl
  | cons event rest inductionHypothesis =>
      exact audit_step.trans (inductionHypothesis _)

theorem trusted_run (trusted : start.Trusted)
    (inOrder : (backoffice setup).Along InOrder start events) :
    ((backoffice setup).run start events).Trusted :=
  (backoffice setup).run_invariant (fun _ _ => trusted_step) trusted inOrder

end Runs

/-! ## What stands behind a call -/

/-- A token is issued to the user. -/
def IssuesTo (userId : UserId) (console : Console Digest) : Event → Prop
  | .confirm confirmation =>
      ∃ user, Confirms setup confirmation user console ∧ user.id = userId
  | _ => False

/-- A call of the user consumes a challenge. -/
def LetsIn (userId : UserId) (console : Console Digest) : Event → Prop
  | .admin call request => ∃ user purpose challenge,
      LetIn setup call request user purpose challenge console ∧ user.id = userId
  | _ => False

/-- The user has confirmed its password for the call: the token of the request has the
digest of the one it was given then, and since then neither a call of the user was let in
nor was another token given to it. -/
structure ConfirmedBy (start : Console Digest) (request : HttpRequest) (userId : UserId)
    (purpose : Option String) (earlier : List Event) (confirmation : Confirmation)
    (between : List Event) : Prop where
  confirmed : IssuesTo setup userId ((backoffice setup).run start earlier)
    (.confirm confirmation)
  digest : setup.crypto.sha256 (trim (request.reauthToken.getD "")) =
    setup.crypto.sha256 confirmation.reauthToken
  purpose : Auth.purposesConflict purpose confirmation.purpose = false
  unexpired : request.now < confirmation.request.now + 30 * 60000
  nothing_since : (backoffice setup).Along
    (fun console event => ¬ IssuesTo setup userId console event ∧
      ¬ LetsIn setup userId console event)
    ((backoffice setup).run start (earlier ++ [.confirm confirmation])) between

/-- The call is one of an active administrator who may manage payments, has confirmed it,
and is named in the audit trail. -/
structure Authorised (start : Console Digest) (before : List Event) (call : AdminPaymentsCall)
    (request : HttpRequest) (after : List Event) (user : Auth.User) : Prop where
  authenticated :
    jwtUser setup request ((backoffice setup).run start before).reauth.users = some user
  isAdmin : user.role = .admin
  holds : user.Holds .adminPaymentsManage
  confirmed : ∃ purpose earlier confirmation between, call.policy.reauth = some purpose ∧
    before = earlier ++ .confirm confirmation :: between ∧
      ConfirmedBy setup start request user.id purpose earlier confirmation between
  audited : ∃ log ∈ ((backoffice setup).run start
      (before ++ .admin call request :: after)).audit,
    log.actorUserId = some user.id ∧
      log.action = .ofString call.method ++ .ofString " " ++ .ofString call.path ∧
        log.metadata = some (.object [(.ofString "reauthRequired", .boolean true)])

section Origins

variable {setup} {start : Console Digest} {before : List Event} {call : AdminPaymentsCall}
  {request : HttpRequest} {user : Auth.User} {purpose : Option String}
  {challenge : Auth.ReauthChallenge Digest}

omit [DecidableEq Digest] in
theorem expiresAt_le (confirmation : Confirmation) :
    confirmation.expiresAt setup ≤ confirmation.request.now + 30 * 60000 := by
  rw [Confirmation.expiresAt]
  exact Int.add_le_add_left (Auth.reauthLifetime_le _) _

/-- The challenge a call is let in with was not yet consumed, and is the latest of its
user. -/
theorem latest_of_letIn {console : Console Digest}
    (letIn : LetIn setup call request user purpose challenge console)
    (trusted : console.Trusted) (inOrder : console.clock ≤ request.now)
    {other : Auth.ReauthChallenge Digest} (member : other ∈ console.reauth.challenges)
    (own : other.userId = user.id) : other.id ≤ challenge.id := by
  have accepts := Auth.accepts_of_judge letIn.accepted
  exact trusted.sound.le_of_live (trusted.dated_at inOrder)
    (console.reauth.challenges.mem_of_find? accepts.stored) accepts.unconsumed
    accepts.unexpired member (own.trans accepts.user.symm)

/-- What is issued is stored under a new identifier. -/
theorem step_issues {console : Console Digest} {confirmation : Confirmation}
    (confirms : Confirms setup confirmation user console) :
    ∃ row, ((backoffice setup).step console (.confirm confirmation)).reauth.challenges.find?
      console.reauth.challenges.nextId = some row ∧ row.userId = user.id := by
  change ∃ row, (serveConfirm setup confirmation console).reauth.challenges.find? _ = some row ∧ _
  have served := serveConfirm_cases setup confirmation console
  generalize serveConfirm setup confirmation console = after at served ⊢
  cases served with
  | refused barred logged =>
      exact absurd confirms (barred user)
  | @issued other reauth audit confirmsOther issued logged =>
      obtain rfl : other = user :=
        Option.some.inj (confirmsOther.authenticated.symm.trans confirms.authenticated)
      have found := issued.find?_challenge console.reauth.challenges.nextId
      rw [if_pos rfl] at found
      exact ⟨_, found, rfl⟩

/-- A call which is let in consumes its challenge. -/
theorem step_consumes {console : Console Digest}
    (letIn : LetIn setup call request user purpose challenge console) :
    ∃ row, ((backoffice setup).step console (.admin call request)).reauth.challenges.find?
      challenge.id = some row ∧ row.consumedAt.isSome ∧ row.userId = user.id := by
  change ∃ row, (serveAdmin setup call request console).reauth.challenges.find? _ = some row ∧ _
  have served := serveAdmin_cases setup call request console
  generalize serveAdmin setup call request console = after at served ⊢
  cases served with
  | refused barred harmless logged =>
      exact absurd letIn (barred user purpose challenge)
  | routine uncritical =>
      rw [letIn.critical] at uncritical
      cases uncritical
  | @critical other given found letInOther =>
      obtain rfl : other = user :=
        Option.some.inj (letInOther.authenticated.symm.trans letIn.authenticated)
      obtain rfl : given = purpose :=
        Option.some.inj (letInOther.critical.symm.trans letIn.critical)
      obtain rfl : found = challenge := by
        injection letInOther.accepted.symm.trans letIn.accepted
      have accepts := Auth.accepts_of_judge letIn.accepted
      exact ⟨_, Auth.redeemed_find? accepts.stored, rfl, accepts.user⟩

/-- Since the challenge of the call was issued, none was issued to the user, and no call of
the user was let in. -/
theorem nothing_since {middle late : Console Digest} {event : Event}
    {old : Auth.ReauthChallenge Digest} (trusted : middle.Trusted)
    (inOrder : InOrder middle event)
    (later : ((backoffice setup).step middle event).reauth.Later late.reauth)
    (trustedLate : late.Trusted) (inOrderLate : late.clock ≤ request.now)
    (letIn : LetIn setup call request user purpose challenge late)
    (found : middle.reauth.challenges.find? challenge.id = some old)
    (own : old.userId = user.id) :
    ¬ IssuesTo setup user.id middle event ∧ ¬ LetsIn setup user.id middle event := by
  have sameId : old.id = challenge.id := middle.reauth.challenges.key_of_find? found
  have member := middle.reauth.challenges.mem_of_find? found
  constructor
  · intro issues
    cases event with
    | confirm confirmation =>
        obtain ⟨other, confirms, sameUser⟩ := issues
        obtain ⟨row, stored, rowUser⟩ := step_issues confirms
        obtain ⟨present, foundPresent, same, _⟩ := later _ row stored
        simp only [Auth.ReauthChallenge.fixed, Prod.mk.injEq] at same
        have latest := latest_of_letIn letIn trustedLate inOrderLate
          (late.reauth.challenges.mem_of_find? foundPresent)
          (same.2.1.trans (rowUser.trans sameUser))
        have newId : present.id = middle.reauth.challenges.nextId :=
          late.reauth.challenges.key_of_find? foundPresent
        have bound : old.id < middle.reauth.challenges.nextId :=
          middle.reauth.challenges.key_lt_nextId member
        rw [newId, ← sameId] at latest
        exact absurd (bound.trans_le latest) (lt_irrefl _)
    | _ =>
        exact issues
  · intro lets
    cases event with
    | admin otherCall otherRequest =>
        obtain ⟨other, given, spent, letInOther, sameUser⟩ := lets
        obtain ⟨row, stored, consumed, rowUser⟩ := step_consumes letInOther
        obtain ⟨present, foundPresent, same, stays⟩ := later _ row stored
        simp only [Auth.ReauthChallenge.fixed, Prod.mk.injEq] at same
        have presentId : present.id = spent.id :=
          late.reauth.challenges.key_of_find? foundPresent
        have accepts := Auth.accepts_of_judge letIn.accepted
        have atLeast : old.id ≤ spent.id := latest_of_letIn letInOther trusted
          (inOrder _ rfl) member (own.trans sameUser.symm)
        have atMost : present.id ≤ challenge.id := latest_of_letIn letIn trustedLate inOrderLate
          (late.reauth.challenges.mem_of_find? foundPresent)
          (same.2.1.trans (rowUser.trans sameUser))
        obtain rfl : present = challenge := by
          refine late.reauth.challenges.eq_of_key_eq
            (late.reauth.challenges.mem_of_find? foundPresent)
            (late.reauth.challenges.mem_of_find? accepts.stored) ?_
          rw [sameId, ← presentId] at atLeast
          exact le_antisymm atMost atLeast
        have unconsumed := stays consumed
        rw [accepts.unconsumed] at unconsumed
        cases unconsumed
    | _ =>
        exact lets

def HasChallenge (challengeId : Auth.ChallengeId) (console : Console Digest) : Prop :=
  (console.reauth.challenges.find? challengeId).isSome = true

theorem run_cons_split (start : Console Digest) (earlier : List Event) (event : Event)
    (between : List Event) :
    (backoffice setup).run start (earlier ++ event :: between) =
      (backoffice setup).run ((backoffice setup).step
        ((backoffice setup).run start earlier) event) between := by
  rw [Machine.run_append, Machine.run_cons]

/-- A call which is let in was confirmed. -/
theorem confirmed_of_letIn (initial : start.IsInitial)
    (inOrder : (backoffice setup).Along InOrder start before)
    (timely : ((backoffice setup).run start before).clock ≤ request.now)
    (letIn : LetIn setup call request user purpose challenge
      ((backoffice setup).run start before)) :
    ∃ earlier confirmation between, before = earlier ++ .confirm confirmation :: between ∧
      ConfirmedBy setup start request user.id purpose earlier confirmation between := by
  have accepts := Auth.accepts_of_judge letIn.accepted
  have fresh : ¬ HasChallenge challenge.id start := by
    rw [HasChallenge, initial.challenges]
    exact Bool.false_ne_true
  obtain ⟨earlier, event, between, rfl, begins⟩ := Machine.exists_begins fresh
    (show HasChallenge challenge.id _ from Option.isSome_of_mem accepts.stored)
  obtain ⟨confirmation, confirmer, rfl, confirms, found⟩ :=
    issued_of_new (Option.not_isSome_iff_eq_none.mp begins.fresh) begins.now
  obtain ⟨present, foundPresent, same, _⟩ := @later_run _ _ setup _ between _ _ found
  rw [← run_cons_split, accepts.stored] at foundPresent
  obtain rfl := Option.some.inj foundPresent
  simp only [Auth.ReauthChallenge.fixed, Prod.mk.injEq] at same
  obtain ⟨_, sameUser, sameHash, sameExpiry, samePurpose, _⟩ := same
  refine ⟨earlier, confirmation, between, rfl, ⟨confirmer, confirms, ?_⟩, ?_, ?_, ?_, ?_⟩
  · exact sameUser.symm.trans accepts.user
  · exact accepts.digest.symm.trans sameHash
  · have agree := accepts.purpose
    rw [samePurpose] at agree
    exact agree
  · have unexpired := accepts.unexpired
    rw [sameExpiry] at unexpired
    exact lt_of_lt_of_le unexpired (expiresAt_le confirmation)
  · refine Machine.along_of_splits fun early event late split => ?_
    have holds := begins.lasts early (event :: late) split
    have trustedLate := trusted_run initial.trusted inOrder
    have parts : earlier ++ .confirm confirmation :: between =
        (earlier ++ .confirm confirmation :: early) ++ event :: late := by
      rw [split, List.append_assoc, List.cons_append]
    rw [parts] at inOrder timely letIn trustedLate accepts
    obtain ⟨inOrderEarly, inOrderNow, _⟩ := ((backoffice setup).along_append _ _ _ _).mp inOrder
    rw [run_cons_split] at timely letIn trustedLate accepts
    have sameMiddle : (backoffice setup).run ((backoffice setup).run start
        (earlier ++ [.confirm confirmation])) early =
          (backoffice setup).run start (earlier ++ .confirm confirmation :: early) := by
      rw [← Machine.run_append, List.append_assoc, List.singleton_append]
    rw [sameMiddle]
    obtain ⟨old, foundOld⟩ := Option.isSome_iff_exists.mp holds
    refine nothing_since (trusted_run initial.trusted inOrderEarly) inOrderNow
      (later_run _ late) trustedLate timely letIn foundOld ?_
    obtain ⟨last, foundLast, sameLast, _⟩ := @later_run _ _ setup _ (event :: late) _ _
      foundOld
    rw [Machine.run_cons, accepts.stored] at foundLast
    obtain rfl := Option.some.inj foundLast
    simp only [Auth.ReauthChallenge.fixed, Prod.mk.injEq] at sameLast
    exact sameLast.2.1.symm.trans accepts.user

theorem policy_of_critical (critical : call.policy.reauth = some purpose) :
    call.policy.requiredPermissions = [.adminPaymentsManage] := by
  cases call <;> first | rfl | cases critical

omit [DecidableEq Digest] in
theorem holds_of_permitted {console : Console Digest}
    (critical : call.policy.reauth = some purpose)
    (permitted : Permitted call.policy user console) :
    user.role = .admin ∧ user.Holds .adminPaymentsManage := by
  obtain ⟨_, has⟩ := Bool.and_eq_true_iff.mp permitted
  rw [policy_of_critical critical] at has
  have granted := List.all_eq_true.mp has .adminPaymentsManage (List.mem_singleton.mpr rfl)
  rw [List.contains_iff_mem, Auth.User.accessContext, Auth.resolveAccessContext] at granted
  cases role : user.role with
  | admin =>
      refine ⟨rfl, fun isProviderUser => ?_⟩
      rw [if_pos (congrArg some role)] at granted
      rw [Auth.User.accessContext, Auth.resolveAccessContext, if_pos (congrArg some role)]
      exact granted
  | user =>
      generalize console.isProviderUser user.id = isProviderUser at granted
      cases isProviderUser <;> simp [role, Auth.rolePermissions] at granted

/-- The row of the action stays in the audit trail. -/
theorem audited_of_letIn {after : List Event}
    (letIn : LetIn setup call request user purpose challenge
      ((backoffice setup).run start before)) :
    ∃ log ∈ ((backoffice setup).run start (before ++ .admin call request :: after)).audit,
      log.actorUserId = some user.id ∧
        log.action = .ofString call.method ++ .ofString " " ++ .ofString call.path ∧
          log.metadata = some (.object [(.ofString "reauthRequired", .boolean true)]) := by
  have stays := @audit_run _ _ setup ((backoffice setup).step
    ((backoffice setup).run start before) (.admin call request)) after
  rw [run_cons_split]
  suffices logged : ∃ log ∈ (serveAdmin setup call request
      ((backoffice setup).run start before)).audit,
      log.actorUserId = some user.id ∧
        log.action = .ofString call.method ++ .ofString " " ++ .ofString call.path ∧
          log.metadata = some (.object [(.ofString "reauthRequired", .boolean true)]) by
    obtain ⟨log, member, named⟩ := logged
    exact ⟨log, stays.subset member, named⟩
  have served := serveAdmin_cases setup call request ((backoffice setup).run start before)
  generalize serveAdmin setup call request _ = left at served ⊢
  cases served with
  | refused barred harmless logged =>
      exact absurd letIn (barred user purpose challenge)
  | routine uncritical =>
      rw [letIn.critical] at uncritical
      cases uncritical
  | @critical other given found letInOther =>
      obtain rfl : other = user :=
        Option.some.inj (letInOther.authenticated.symm.trans letIn.authenticated)
      exact ⟨_, List.mem_cons_self, rfl, rfl, rfl⟩

theorem authorised_of_letIn {after : List Event} (initial : start.IsInitial)
    (inOrder : (backoffice setup).Along InOrder start (before ++ .admin call request :: after))
    (letIn : LetIn setup call request user purpose challenge
      ((backoffice setup).run start before)) :
    Authorised setup start before call request after user := by
  obtain ⟨inOrderBefore, inOrderNow, _⟩ := ((backoffice setup).along_append _ _ _ _).mp inOrder
  obtain ⟨isAdmin, holds⟩ := holds_of_permitted letIn.critical letIn.permitted
  obtain ⟨earlier, confirmation, between, split, confirmed⟩ :=
    confirmed_of_letIn initial inOrderBefore (inOrderNow _ rfl) letIn
  exact ⟨letIn.authenticated, isAdmin, holds,
    ⟨purpose, earlier, confirmation, between, letIn.critical, split, confirmed⟩,
    audited_of_letIn letIn⟩

end Origins

/-! ## Money out -/

/-- A transaction which is not a charge is in the books. -/
def RecordsOutflow (transactionId : TransactionId) (console : Console Digest) : Prop :=
  ∃ row ∈ console.store.transactions, row.id = transactionId ∧ row.type ≠ .charge

def Posts (index : Nat) (entry : LedgerEntry) (console : Console Digest) : Prop :=
  console.store.ledger[index]? = some entry

section MoneyOut

variable {setup} {console : Console Digest} {event : Event}

/-- Nobody pays, or a user whose call is let in. -/
theorem step_paidBy (trusted : console.Trusted) :
    console.store.PaidBy none ((backoffice setup).step console event).store.toBooks ∨
      ∃ call request, ∃ user : Auth.User, ∃ purpose challenge,
        event = .admin call request ∧
          LetIn setup call request user purpose challenge console ∧
            console.store.PaidBy (some user.id)
              ((backoffice setup).step console event).store.toBooks := by
  cases event with
  | account write =>
      exact .inl (.refl _)
  | operate operation =>
      left
      have performed := perform_paidBy trusted.consistent.toForeignKeys operation.val
      have unpaid : operation.val.payer? = none := by
        obtain ⟨operation, ordinary⟩ := operation
        cases operation <;> first | rfl | cases ordinary
      rw [unpaid] at performed
      exact performed
  | confirm confirmation =>
      left
      change console.store.PaidBy none (serveConfirm setup confirmation console).store.toBooks
      have served := serveConfirm_cases setup confirmation console
      generalize serveConfirm setup confirmation console = after at served ⊢
      cases served <;> exact .refl _
  | admin call request =>
      have sameStore : ((backoffice setup).step console (.admin call request)).store =
          (serveAdmin setup call request console).store := rfl
      rw [sameStore]
      have served := serveAdmin_cases setup call request console
      generalize serveAdmin setup call request console = after at served ⊢
      cases served with
      | refused barred harmless logged =>
          exact .inl (.refl _)
      | @routine user authz uncritical =>
          have paid := @service_paidBy _ setup call user.id request.now _ trusted.consistent
          rw [payer?_eq_none user.id uncritical] at paid
          exact .inl paid
      | @critical user purpose challenge letIn =>
          right
          refine ⟨call, request, user, purpose, challenge, rfl, letIn, ?_⟩
          have paid := @service_paidBy _ setup call user.id request.now _ trusted.consistent
          cases nobody : call.payer? user.id with
          | none =>
              rw [nobody] at paid
              exact paid.of_none
          | some payer =>
              have same : payer = user.id := by
                cases call <;> cases nobody <;> rfl
              rw [nobody, same] at paid
              exact paid

/-- What money has begun to leave by is a call which was let in. -/
theorem letIn_of_begins {condition : Console Digest → Prop} {start : Console Digest}
    {before : List Event} {after : List Event} (initial : start.IsInitial)
    (inOrder : (backoffice setup).Along InOrder start (before ++ event :: after))
    (begins : (backoffice setup).Begins condition start before event after)
    (unpaid : ∀ {before after : Console Digest}, before.store.PaidBy none after.store.toBooks →
      condition after → condition before) :
    ∃ (call : AdminPaymentsCall) (request : HttpRequest) (user : Auth.User),
      event = .admin call request ∧ Authorised setup start before call request after user ∧
        ((backoffice setup).run start before).store.PaidBy (some user.id)
          ((backoffice setup).step ((backoffice setup).run start before) event).store.toBooks := by
  have trusted := trusted_run initial.trusted (((backoffice setup).along_append _ _ _ _).mp
    inOrder).1
  rcases @step_paidBy _ _ setup _ event trusted with nobody | ⟨call, request, user, purpose,
    challenge, rfl, letIn, paid⟩
  · exact absurd (unpaid nobody begins.now) begins.fresh
  · exact ⟨call, request, user, rfl, authorised_of_letIn initial inOrder letIn, paid⟩

/-- In every run each transaction which is not a charge, and each entry of the ledger which
is not of one, was brought about by a call which was authorised, and the entry bears the name
of its caller. -/
theorem money_out_confirmed (setup : Setup Digest) {start : Console Digest}
    (initial : start.IsInitial) {events : List Event}
    (inOrder : (backoffice setup).Along InOrder start events) :
    (∀ row ∈ ((backoffice setup).run start events).store.transactions, row.type ≠ .charge →
      ∃ before call request after, ∃ user : Auth.User,
        events = before ++ .admin call request :: after ∧
        (backoffice setup).Begins (RecordsOutflow row.id) start before (.admin call request)
          after ∧
        Authorised setup start before call request after user) ∧
    (∀ index entry, Posts index entry ((backoffice setup).run start events) →
      entry.entryType.isCharge = false →
      ∃ before call request after, ∃ user : Auth.User,
        events = before ++ .admin call request :: after ∧
        (backoffice setup).Begins (Posts index entry) start before (.admin call request) after ∧
        Authorised setup start before call request after user ∧
        entry.createdByUserId = some user.id) := by
  obtain ⟨market, empty⟩ := initial.store
  constructor
  · intro row member outflow
    have fresh : ¬ RecordsOutflow row.id start := by
      rintro ⟨old, older, _⟩
      rw [empty] at older
      exact Table.not_mem_empty old older
    obtain ⟨before, event, after, rfl, begins⟩ := Machine.exists_begins fresh
      (show RecordsOutflow row.id _ from ⟨row, member, rfl, outflow⟩)
    obtain ⟨call, request, user, rfl, authorised, _⟩ := letIn_of_begins initial inOrder begins (by
      rintro earlier later paid ⟨present, inside, sameId, notCharge⟩
      rcases paid.transactions present inside with charge | nobody | ⟨old, older, oldId, oldType⟩
      · exact absurd charge notCharge
      · cases nobody
      · exact ⟨old, older, oldId.trans sameId, oldType ▸ notCharge⟩)
    exact ⟨before, call, request, after, user, rfl, begins, authorised⟩
  · intro index entry posted notCharge
    have fresh : ¬ Posts index entry start := by
      rw [Posts, empty]
      simp [Store.initial, Books.initial]
    obtain ⟨before, event, after, rfl, begins⟩ := Machine.exists_begins fresh posted
    have charged : ¬ entry.entryType.isCharge = true := by simp [notCharge]
    have older : ∀ {earlier later : Console Digest},
        earlier.store.PaidBy none later.store.toBooks →
          Posts index entry later → Posts index entry earlier := by
      intro earlier later unpaid present
      rcases unpaid.posted present with older | charge | ⟨_, nobody, _⟩
      · exact older
      · exact absurd charge charged
      · cases nobody
    obtain ⟨call, request, user, rfl, authorised, paid⟩ :=
      letIn_of_begins initial inOrder begins older
    refine ⟨before, call, request, after, user, rfl, begins, authorised, ?_⟩
    rcases paid.posted begins.now with older | charge | ⟨userId, isUser, named⟩
    · exact absurd older begins.fresh
    · exact absurd charge charged
    · cases isUser
      exact named

end MoneyOut

section Sample

def sampleSetup : Setup String where
  verify := fun token _ => if token = "session" then some 2 else none
  crypto := Auth.sampleReauthCrypto
  reauthTtlMinutes := none
  isoString := fun _ => .ofString "1970-01-01T00:10:00.030Z"
  policy := samplePolicy
  reconciliation := ⟨none, none, none⟩

def sampleConsole : Console String where
  reauth := .initial String
    (Table.empty.place ⟨2, "admin@tchuno.test", some "Admin", "segredo1", .admin, none, true⟩)
  store := Store.initial sampleMarketplace
  audit := []
  clock := 0

def sampleRequest (reauthToken : Option String) (now : Time) : HttpRequest :=
  ⟨some "session", reauthToken, none, none, now⟩

/-- A deposit is paid; the administrator confirms the password, and refunds it. -/
def sampleRefund : List Event :=
  [.operate ⟨sampleSelection, rfl⟩,
    .operate ⟨.payIntent 0 0 ⟨none⟩ (sampleAnswer .succeeded "charge") 2, rfl⟩,
    .confirm ⟨"segredo1", some "admin.payments.refund", "token", sampleRequest none 30⟩,
    .admin (.createRefund ⟨0, none, "Late", []⟩ (sampleAnswer .succeeded "refund"))
      (sampleRequest (some "token") 40)]

theorem sampleRefund_confirmed :
    (((backoffice sampleSetup).run sampleConsole sampleRefund).store.transactions.findMany
      fun row => row.type = .refund).length = 1 ∧
    ∀ row ∈ ((backoffice sampleSetup).run sampleConsole sampleRefund).store.transactions,
      row.type ≠ .charge →
      ∃ before call request after, ∃ user : Auth.User,
        sampleRefund = before ++ .admin call request :: after ∧
        (backoffice sampleSetup).Begins (RecordsOutflow row.id) sampleConsole before
          (.admin call request) after ∧
        Authorised sampleSetup sampleConsole before call request after user :=
  ⟨by decide +kernel, (money_out_confirmed sampleSetup ⟨rfl, rfl, sampleMarketplace, rfl⟩
    (show (backoffice sampleSetup).Along InOrder sampleConsole sampleRefund by
      decide +kernel)).1⟩

end Sample

end Tchuno.Backoffice
