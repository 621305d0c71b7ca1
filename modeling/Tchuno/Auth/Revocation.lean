import Tchuno.Auth.TokenFamily

/-!
# Revocation under concurrent calls

A revocation only fills `revokedAt` of live sessions, but issuing a token empties it
again, whatever happened since the session was read.  Sessions stay revoked as long as
none is revoked between the moment a call decides to issue a token for it and the
moment it locks the row.
-/

namespace Tchuno.Auth

open Tchuno.Library Tchuno.Library.Ecma

variable {Token Digest : Type} [DecidableEq Digest]

/-! ## The discipline -/

/-- The session whose row the call is about to renew, by what it has seen last. -/
def AuthCall.renews (call : AuthCall Token) (crypto : Crypto Token Digest)
    (seen : Option (Database Token Digest)) : Option SessionId :=
  match call with
  | .register _ _ draws _ => some draws.sessionId
  | .login _ _ draws _ => some draws.sessionId
  | .refresh refreshToken _ _ now => do
      let database ← seen
      let (token, payload) ← presented? crypto refreshToken now
      match database.judge crypto token payload with
      | .accepted session _ => some session.id
      | _ => none
  | _ => none

/-- The row of a session is not revoked when a call locks it to renew it. -/
def AuthCall.Undisturbed (call : AuthCall Token) (crypto : Crypto Token Digest)
    (seen : Option (Database Token Digest)) :
    Statement (Target Digest) → Database Token Digest → Prop
  | .lock (.session sessionId), database =>
      call.renews crypto seen = some sessionId →
        ∀ session ∈ database.sessions.find? sessionId, session.isLive = true
  | _, _ => True

instance AuthCall.decidableUndisturbed (call : AuthCall Token) (crypto : Crypto Token Digest)
    (seen : Option (Database Token Digest)) (statement : Statement (Target Digest))
    (database : Database Token Digest) :
    Decidable (call.Undisturbed crypto seen statement database) := by
  rcases statement with _ | row | _ | _ | _
  case lock => cases row <;> unfold AuthCall.Undisturbed <;> infer_instance
  all_goals unfold AuthCall.Undisturbed; infer_instance

/-- Sessions stay stored, and those which are revoked stay revoked. -/
def Database.KeepsRevoked (before after : Database Token Digest) : Prop :=
  ∀ sessionId session, before.sessions.find? sessionId = some session →
    ∃ later, after.sessions.find? sessionId = some later ∧
      (session.isLive = false → later.isLive = false)

/-- The row of a session is changed only under its lock. -/
def revocationDiscipline {ι : Type} (crypto : Crypto Token Digest)
    (calls : ι → AuthCall Token) :
    Discipline (Database Token Digest) (Database Token Digest) (Target Digest) ι where
  data := id
  invariant := fun _ => True
  same := fun row before after => ∀ sessionId, row = .session sessionId →
    ∀ session, before.sessions.find? sessionId = some session →
      after.sessions.find? sessionId = some session
  grows := Database.KeepsRevoked
  allowed := fun client => (calls client).Undisturbed crypto

omit [DecidableEq Digest] in
/-- A call which revokes the sessions it has found and locked. -/
theorem carries_revokeSessions_of {τ ι : Type} {client : ι}
    {discipline : Discipline τ (Database Token Digest) (Target Digest) ι}
    (tolerates : discipline.Tolerates (· = ·)) {accept : Session Digest → Bool} {now : Time}
    (keeps : ∀ held (found : List SessionId) state,
      (∀ sessionId ∈ found, Target.session sessionId ∈ held) → discipline.invariant state →
      ∃ after, discipline.data after = (discipline.data state).revokeMany
          (fun session => session.id ∈ found && accept session) now ∧
        discipline.Keeps held state after) :
    discipline.Carries client (· = ·)
      (revokeSessions accept now : Procedure Token Digest Unit) := by
  intro finish standing steady ends
  refine Discipline.safe_transaction (Discipline.safe_look_bind steady.stable ?_)
  intro found seen
  refine Discipline.safe_lockAll_bind steady.stable fun held larger locked => ?_
  refine tolerates.closes_ok ends fun state invariant _ _ => ?_
  obtain ⟨after, written, kept⟩ := keeps held found state
    (fun sessionId member => locked _ (List.mem_map_of_mem member)) invariant
  refine ⟨after, ?_, kept⟩
  rw [written]
  change _ = Database.revokeMany (standing.pending (discipline.data state)) _ now
  rw [← steady.kept (discipline.data state)]

section Calls

variable {ι : Type} {crypto : Crypto Token Digest} {calls : ι → AuthCall Token} {client : ι}

@[simp]
theorem revocationDiscipline_data (database : Database Token Digest) :
    (revocationDiscipline crypto calls).data database = database := rfl

omit [DecidableEq Digest] in
theorem keepsRevoked_of_sessions {before after : Database Token Digest}
    (same : after.sessions = before.sessions) : before.KeepsRevoked after :=
  fun sessionId session found => ⟨session, by rw [same, found], id⟩

theorem keeps_of_sessions {held : Set (Target Digest)} {before after : Database Token Digest}
    (same : after.sessions = before.sessions) :
    (revocationDiscipline crypto calls).Keeps held before after :=
  ⟨trivial, keepsRevoked_of_sessions same, fun _ _ _ _ _ found => by rw [same, found]⟩

/-- Nothing is pending. -/
theorem revocation_tolerates :
    (revocationDiscipline crypto calls).Tolerates (· = ·) where
  refl := fun _ => rfl
  trans := fun early late => early.trans late
  keeps := fun {before} _ same _ => ⟨before, same, keeps_of_sessions rfl⟩

/-! ## Statements -/

/-- A transaction after which the client knows nothing. -/
theorem closes_settled {α : Type} {finish : Except AuthError α →
      Standing (Database Token Digest) (Database Token Digest) (Target Digest) → Prop}
    (ends : ∀ result middle, (revocationDiscipline crypto calls).Steady (· = ·) middle →
      finish result middle) {value : α}
    {middle : Standing (Database Token Digest) (Database Token Digest) (Target Digest)}
    (keeps : ∀ state, middle.know state →
      (revocationDiscipline crypto calls).Keeps middle.held state (middle.pending state)) :
    (revocationDiscipline crypto calls).Closes client finish (.ok value) middle :=
  revocation_tolerates.closes_ok ends fun state _ knows _ => ⟨_, rfl, keeps state knows⟩

theorem keeps_revokeMany {held : Set (Target Digest)} {found : List SessionId}
    (locked : ∀ sessionId ∈ found, Target.session sessionId ∈ held)
    (accept : Session Digest → Bool) (now : Time) (database : Database Token Digest) :
    (revocationDiscipline crypto calls).Keeps held database
      (database.revokeMany (fun session => session.id ∈ found && accept session) now) := by
  refine ⟨trivial, fun sessionId session stored => ?_, ?_⟩
  · refine ⟨_, by rw [find?_revokeMany, stored]; rfl, fun dead => ?_⟩
    dsimp only
    split_ifs
    · rfl
    · exact dead
  · rintro _ free sessionId rfl session stored
    have unlisted : session.id ∉ found := by
      have sameId : session.id = sessionId := database.sessions.key_of_find? stored
      rw [sameId]
      exact fun member => free (locked sessionId member)
    rw [find?_revokeMany, stored]
    simp [unlisted]

theorem carries_revokeSessions (accept : Session Digest → Bool) (now : Time) :
    (revocationDiscipline crypto calls).Carries client (· = ·)
      (revokeSessions accept now : Procedure Token Digest Unit) :=
  carries_revokeSessions_of revocation_tolerates fun _ _ database locked _ =>
    ⟨_, rfl, keeps_revokeMany locked accept now database⟩

/-- A statement which changes users only. -/
theorem carries_createUser (row : User) :
    (revocationDiscipline crypto calls).Carries client (· = ·)
      (createUser row : Procedure Token Digest User) := by
  intro finish standing steady ends
  refine Discipline.safe_transaction
    (Discipline.safe_lockAll_bind steady.stable fun held larger _ => ?_)
  refine Discipline.safe_consult_bind fun state _ knows _ =>
    ⟨standing.know, knows, steady.stable.mono larger, ?_⟩
  split_ifs
  · refine closes_settled ends fun later _ => keeps_of_sessions ?_
    change (standing.pending later).sessions = later.sessions
    rw [← steady.kept later]
  · exact revocation_tolerates.closes_error client ends _ _

theorem carries_updateUser (userId : UserId) (change : User → User)
    (keeps : ∀ user, Keyed.key (change user) = Keyed.key user) :
    (revocationDiscipline crypto calls).Carries client (· = ·)
      (updateUser userId change keeps : Procedure Token Digest User) := by
  intro finish standing steady ends
  refine Discipline.safe_transaction fun state _ knows _ =>
    ⟨standing.know, knows, steady.stable.mono (Set.subset_insert _ _), ?_⟩
  refine Discipline.safe_consult_bind fun state _ knows _ =>
    ⟨standing.know, knows, steady.stable.mono (Set.subset_insert _ _), ?_⟩
  split
  · refine closes_settled ends fun later _ => keeps_of_sessions ?_
    change (standing.pending later).sessions = later.sessions
    rw [← steady.kept later]
  · exact revocation_tolerates.closes_error client ends _ _

/-! ## Issuing tokens -/

/-- The session is stored. -/
def Database.Stores (database : Database Token Digest) (sessionId : SessionId) : Prop :=
  ∃ session, database.sessions.find? sessionId = some session

theorem stores_stable {held : Set (Target Digest)} (sessionId : SessionId) :
    (revocationDiscipline crypto calls).Stable held fun database =>
      database.Stores sessionId := by
  rintro before after _ _ grows ⟨session, found⟩
  obtain ⟨later, foundLater, _⟩ := grows sessionId session found
  exact ⟨later, foundLater⟩

/-- The session is stored and live. -/
def Database.StoresLive (database : Database Token Digest) (sessionId : SessionId) : Prop :=
  ∃ session, database.sessions.find? sessionId = some session ∧ session.isLive = true

theorem storesLive_stable {held : Set (Target Digest)} {sessionId : SessionId}
    (locked : Target.session sessionId ∈ held) :
    (revocationDiscipline crypto calls).Stable held fun database =>
      database.StoresLive sessionId := by
  rintro before after _ same _ ⟨session, found, live⟩
  exact ⟨session, same _ locked sessionId rfl session found, live⟩

/-- Renewing a live session under its lock revives nothing. -/
theorem keeps_renew {held : Set (Target Digest)} {database : Database Token Digest}
    {snapshot : Session Digest} (locked : Target.session snapshot.id ∈ held)
    (live : database.StoresLive snapshot.id) (refreshToken : Token) (digest : Digest)
    (clientInfo : Option SessionClientInfo) (now : Time) :
    (revocationDiscipline crypto calls).Keeps held database
      (database.renew snapshot refreshToken digest clientInfo now) := by
  refine ⟨trivial, fun sessionId session stored => ?_, ?_⟩
  · by_cases same : sessionId = snapshot.id
    · subst same
      refine ⟨_, find?_renew_self stored, fun dead => ?_⟩
      obtain ⟨other, found, isLive⟩ := live
      rw [stored] at found
      rw [Option.some.inj found, isLive] at dead
      cases dead
    · exact ⟨session, by rw [find?_renew, if_neg same, stored], id⟩
  · rintro _ free sessionId rfl session stored
    have apart : sessionId ≠ snapshot.id := by
      rintro rfl
      exact free locked
    rw [find?_renew, if_neg apart, stored]

/-- A client which has decided to renew a session, by what it has seen. -/
structure Renews (crypto : Crypto Token Digest) (call : AuthCall Token)
    (discipline : Discipline (Database Token Digest) (Database Token Digest) (Target Digest) ι)
    (sessionId : SessionId)
    (standing : Standing (Database Token Digest) (Database Token Digest) (Target Digest)) :
    Prop where
  decided : call.renews crypto standing.seen = some sessionId
  stable : discipline.Stable standing.held standing.know
  stores : ∀ database, standing.know database → database.Stores sessionId
  settled : ∀ database, database = standing.pending database

theorem safe_issueTokensFor {finish : Except AuthError (AuthResponse Token) →
      Standing (Database Token Digest) (Database Token Digest) (Target Digest) → Prop}
    {standing : Standing (Database Token Digest) (Database Token Digest) (Target Digest)}
    {user : User} {clientInfo : Option SessionClientInfo} {session : Session Digest}
    {jti : Uuid} {now : Time}
    (renews : Renews crypto (calls client) (revocationDiscipline crypto calls) session.id
      standing)
    (ends : ∀ result middle, (revocationDiscipline crypto calls).Steady (· = ·) middle →
      finish result middle) :
    (revocationDiscipline crypto calls).Safe client finish standing
      (issueTokensFor crypto user clientInfo session jti now) := by
  refine Discipline.safe_script_bind (Discipline.safe_transaction
    (Discipline.safe_lockAll_cons_bind ?_))
  have ended : ∀ (result : Except AuthError Unit) middle,
      (revocationDiscipline crypto calls).Steady (· = ·) middle →
      (revocationDiscipline crypto calls).Continues client finish
        (fun _ => pure ⟨user.response, crypto.sign .access (accessClaims user now),
          crypto.sign .refresh (refreshClaims user session jti now)⟩) result middle := by
    intro result middle steady
    cases result with
    | ok value =>
        exact ends _ middle steady
    | error error =>
        exact ends _ middle steady
  intro state _ knows allowed
  have locked : Target.session session.id ∈ insert (Target.session session.id) standing.held :=
    Set.mem_insert _ _
  -- the row is live when its lock is granted
  have live : state.StoresLive session.id := by
    obtain ⟨row, found⟩ := renews.stores state knows
    exact ⟨row, found, allowed renews.decided row found⟩
  refine ⟨_, live, storesLive_stable locked, ?_⟩
  refine Discipline.safe_lockAll_bind (storesLive_stable locked) fun held larger _ => ?_
  refine Discipline.safe_consult_bind fun later _ knowsLater _ =>
    ⟨_, knowsLater, storesLive_stable (larger locked), ?_⟩
  split_ifs
  · exact revocation_tolerates.closes_error client ended _ _
  · refine closes_settled ended fun last isLive => ?_
    change Discipline.Keeps _ held last (Database.renew (standing.pending last) _ _ _ _ _)
    rw [← renews.settled last]
    exact keeps_renew (larger locked) isLive _ _ _ _
  · exact revocation_tolerates.closes_error client ended _ _

/-- A session which is opened is there when its token is issued. -/
theorem carries_issueTokens {user : User} {clientInfo : Option SessionClientInfo}
    {draws : Draws} {now : Time}
    (renews : ∀ seen, (calls client).renews crypto seen = some draws.sessionId) :
    (revocationDiscipline crypto calls).Carries client (· = ·)
      (issueTokens crypto user clientInfo none draws now) := by
  intro finish standing steady ends
  refine Discipline.safe_script_bind (Discipline.safe_transaction
    (Discipline.safe_lockAll_bind steady.stable fun held larger _ => ?_))
  refine Discipline.safe_consult_bind fun state _ knows _ => ?_
  rw [revocationDiscipline_data, ← steady.kept state]
  refine ⟨fun _ => True, trivial, Discipline.stable_true _, ?_⟩
  split_ifs with admitted
  · intro later _ _ _
    -- the row is placed, or there was one with its identifier
    let row := openedSession crypto user clientInfo draws now
    let after := { later with sessions := later.sessions.place row }
    have keeps : (revocationDiscipline crypto calls).Keeps held later after :=
      ⟨trivial, fun sessionId session found => ⟨session, Table.find?_place_of_some found, id⟩,
        fun _ _ sessionId _ session found => Table.find?_place_of_some found⟩
    have stores : after.Stores draws.sessionId := by
      cases found : later.sessions.find? draws.sessionId with
      | none =>
          exact ⟨row, by rw [Table.find?_place, if_pos ⟨rfl, found⟩]⟩
      | some session =>
          exact ⟨session, Table.find?_place_of_some found⟩
    refine ⟨after, ?_, keeps, _, stores, stores_stable _, ?_⟩
    · simp only [revocationDiscipline_data, Function.comp, ← steady.kept later, after]
      rfl
    · refine safe_issueTokensFor ⟨renews _, stores_stable _, fun _ known => known,
        fun _ => rfl⟩ ends
  · exact ⟨fun _ => True, fun _ _ _ => trivial, Discipline.stable_true _,
      ends (.error _) _ (revocation_tolerates.steady _)⟩

theorem carries_register {dto : RegisterDto} {clientInfo : Option SessionClientInfo}
    {draws : Draws} {now : Time} (called : calls client = .register dto clientInfo draws now) :
    (revocationDiscipline crypto calls).Carries client (· = ·)
      (register crypto dto clientInfo draws now) := by
  refine Discipline.Carries.bind
    (revocation_tolerates.carries (Script.leaves_select _ _)) fun existingUser => ?_
  refine Discipline.Carries.bind
    (revocation_tolerates.carries (Script.leaves_require _ _)) fun _ => ?_
  refine Discipline.Carries.bind (carries_createUser _) fun user => ?_
  exact carries_issueTokens fun _ => by rw [called]; rfl

theorem carries_login {dto : LoginDto} {clientInfo : Option SessionClientInfo}
    {draws : Draws} {now : Time} (called : calls client = .login dto clientInfo draws now) :
    (revocationDiscipline crypto calls).Carries client (· = ·)
      (login crypto dto clientInfo draws now) := by
  refine Discipline.Carries.bind
    (revocation_tolerates.carries (Script.leaves_consult _ _)) fun user => ?_
  exact carries_issueTokens fun _ => by rw [called]; rfl

/-- A session which is renewed was read before. -/
theorem carries_refresh {refreshToken : Option Token} {clientInfo : Option SessionClientInfo}
    {draws : Draws} {now : Time}
    (called : calls client = .refresh refreshToken clientInfo draws now) :
    (revocationDiscipline crypto calls).Carries client (· = ·)
      (refresh crypto refreshToken clientInfo draws now) := by
  unfold refresh
  cases valid : presented? crypto refreshToken now with
  | none =>
      exact Discipline.carries_fail _
  | some presented =>
      obtain ⟨token, payload⟩ := presented
      intro finish standing steady ends
      refine Discipline.safe_select_bind fun state _ knows _ => ?_
      rw [revocationDiscipline_data, ← steady.kept state]
      cases verdict : state.judge crypto token payload with
      | refused =>
          exact ⟨_, knows, steady.stable, ends (.error _) _ ⟨steady.stable, steady.kept⟩⟩
      | reused session =>
          refine ⟨_, knows, steady.stable, ?_⟩
          exact (carries_revokeSessions _ now).bind (fun _ => Discipline.carries_fail _)
            _ _ ⟨steady.stable, steady.kept⟩ ends
      | accepted session user =>
          have found := (judge_eq_accepted verdict).1
          have stores : state.Stores session.id :=
            ⟨session, state.sessions.find?_key found⟩
          refine ⟨_, stores, stores_stable _, ?_⟩
          refine safe_issueTokensFor ⟨?_, stores_stable _, fun _ known => known,
            steady.kept⟩ ends
          simp [AuthCall.renews, called, valid, verdict]

theorem carries_findTargetUser (userId : UserId) :
    (revocationDiscipline crypto calls).Carries client (· = ·)
      (findTargetUser userId : Procedure Token Digest User) :=
  revocation_tolerates.carries (Script.leaves_consult _ _)

theorem carries_updateUserRole (input : UpdateUserRoleInput) (now : Time) :
    (revocationDiscipline crypto calls).Carries client (· = ·)
      (updateUserRole input now : Procedure Token Digest User) := by
  refine Discipline.Carries.bind (carries_findTargetUser _) fun targetUser => ?_
  refine Discipline.Carries.bind
    (revocation_tolerates.carries (Script.leaves_require _ _)) fun _ => ?_
  refine Discipline.Carries.bind (carries_updateUser _ _ _) fun updatedUser => ?_
  split_ifs
  · exact (carries_revokeSessions _ now).bind fun _ => Discipline.carries_pure _
  · exact Discipline.carries_pure _

theorem carries_updateUserStatus (input : UpdateUserStatusInput) (now : Time) :
    (revocationDiscipline crypto calls).Carries client (· = ·)
      (updateUserStatus input now : Procedure Token Digest User) := by
  refine Discipline.Carries.bind (carries_findTargetUser _) fun targetUser => ?_
  refine Discipline.Carries.bind
    (revocation_tolerates.carries (Script.leaves_require _ _)) fun _ => ?_
  refine Discipline.Carries.bind (carries_updateUser _ _ _) fun updatedUser => ?_
  split_ifs
  · exact (carries_revokeSessions _ now).bind fun _ => Discipline.carries_pure _
  · exact Discipline.carries_pure _

theorem carries_call :
    (revocationDiscipline crypto calls).Carries client (· = ·)
      ((calls client).procedure crypto) := by
  cases called : calls client with
  | register dto clientInfo draws now =>
      exact (carries_register called).bind fun _ => Discipline.carries_pure _
  | login dto clientInfo draws now =>
      exact (carries_login called).bind fun _ => Discipline.carries_pure _
  | refresh refreshToken clientInfo draws now =>
      exact (carries_refresh called).bind fun _ => Discipline.carries_pure _
  | logout refreshToken now =>
      cases refreshToken with
      | none =>
          exact Discipline.carries_pure _
      | some token =>
          exact (carries_revokeSessions _ now).bind fun _ => Discipline.carries_pure _
  | logoutAll userId now =>
      exact (carries_revokeSessions _ now).bind fun _ => Discipline.carries_pure _
  | revokeSession userId sessionId now =>
      exact (carries_revokeSessions _ now).bind fun _ => Discipline.carries_pure _
  | updateUserRole input now =>
      exact (carries_updateUserRole input now).bind fun _ => Discipline.carries_pure _
  | updateUserStatus input now =>
      exact (carries_updateUserStatus input now).bind fun _ => Discipline.carries_pure _

theorem safe_authCall :
    (revocationDiscipline crypto calls).Safe client
      ((revocationDiscipline crypto calls).Ends (fun _ _ _ _ => True) client)
      (Standing.initial _ _ _) ((calls client).procedure crypto) :=
  carries_call _ _ ⟨Discipline.stable_true _, fun _ => rfl⟩ fun _ _ _ _ _ _ => trivial

end Calls

/-! ## Permanence -/

section Permanence

variable {ι : Type} [DecidableEq ι]

/-- A run of the calls from a database. -/
def authRun (crypto : Crypto Token Digest) (database : Database Token Digest)
    (calls : ι → AuthCall Token) (schedule : List (ι × Turn)) :
    Cluster (Database Token Digest) (Target Digest) ι (Except AuthError (AuthReply Token)) :=
  (readCommitted _ _ ι _).run
    (Cluster.start database fun client => (calls client).procedure crypto) schedule

/-- Whatever session is revoked at some point of the run is revoked from then on, and
none of its tokens is accepted. -/
def RevocationPermanent (crypto : Crypto Token Digest) (database : Database Token Digest)
    (calls : ι → AuthCall Token) (schedule : List (ι × Turn)) : Prop :=
  ∀ early late, schedule = early ++ late → ∀ sessionId,
    (authRun crypto database calls early).data.IsRevoked sessionId →
      (authRun crypto database calls schedule).data.IsRevoked sessionId ∧
        (authRun crypto database calls schedule).data.RefusesSession crypto sessionId

omit [DecidableEq Digest] in
theorem Database.KeepsRevoked.isRevoked {before after : Database Token Digest}
    (keeps : before.KeepsRevoked after) {sessionId : SessionId}
    (revoked : before.IsRevoked sessionId) : after.IsRevoked sessionId := by
  obtain ⟨session, found, dead⟩ := revoked
  obtain ⟨later, foundLater, stays⟩ := keeps sessionId session found
  exact ⟨later, foundLater, stays dead⟩

/-- Revocation is permanent in every run in which no row is revoked when a call locks it
to issue a token. -/
theorem revocation_permanent (crypto : Crypto Token Digest)
    (database : Database Token Digest) (calls : ι → AuthCall Token)
    (schedule : List (ι × Turn))
    (undisturbed : (readCommitted (Database Token Digest) (Target Digest) ι
        (Except AuthError (AuthReply Token))).Along
      (Cluster.Obeys fun client => (calls client).Undisturbed crypto)
      (Cluster.start database fun client => (calls client).procedure crypto) schedule) :
    RevocationPermanent crypto database calls schedule := by
  rintro early late rfl sessionId revoked
  rw [Machine.along_append] at undisturbed
  obtain ⟨undisturbedEarly, undisturbedLate⟩ := undisturbed
  obtain ⟨middle, lawfulEarly⟩ := @Discipline.run_lawful _ _ _ _ _
    (revocationDiscipline crypto calls) (fun _ _ _ _ => True) _ _ database trivial _
    (fun client => safe_authCall) early undisturbedEarly
  have sameMiddle : middle = (authRun crypto database calls early).data := lawfulEarly.data
  have revokedMiddle : middle.IsRevoked sessionId := by
    rw [sameMiddle]
    exact revoked
  obtain ⟨after, lawful, stays⟩ := Cluster.run_lawful
    (fun database => Database.IsRevoked database sessionId)
    (fun keeps holds => Database.KeepsRevoked.isRevoked keeps holds) lawfulEarly revokedMiddle
    undisturbedLate
  have sameData : after = (authRun crypto database calls (early ++ late)).data := by
    rw [authRun, Machine.run_append]
    exact lawful.data
  rw [← sameData]
  exact ⟨stays, refusesSession_of_isRevoked stays⟩

end Permanence

/-! ## A session which comes back -/

section Sample

/-- A user has registered; the token of the session has been given out. -/
def sampleAccount : Database SampleToken SampleToken :=
  (accounts sampleCrypto).run (Database.initial SampleToken SampleToken)
    [.register sampleRegistration none (sampleDraws 0) 1000]

/-- One client refreshes the session, the other revokes it. -/
def sampleRace (client : Bool) : AuthCall SampleToken :=
  if client then .logoutAll 0 3000
  else
    .refresh (some (sampleToken 0 (sampleUuid "device" 0) 0 1000)) none (sampleDraws 1) 2000

/-- The refresh has read the session before the revocation. -/
def sampleOvertaken : List (Bool × Turn) :=
  (false, .advance) :: List.replicate 4 (true, .advance)

def sampleWriteBack : List (Bool × Turn) :=
  List.replicate 5 (false, .advance)

theorem revocation_undone :
    ¬ RevocationPermanent sampleCrypto sampleAccount sampleRace
      (sampleOvertaken ++ sampleWriteBack) := by
  intro permanent
  have revoked : (authRun sampleCrypto sampleAccount sampleRace
      sampleOvertaken).data.IsRevoked 0 := by
    refine ⟨_, rfl, ?_⟩
    decide +kernel
  obtain ⟨⟨session, found, dead⟩, _⟩ := permanent _ _ rfl 0 revoked
  have revived : ((authRun sampleCrypto sampleAccount sampleRace
      (sampleOvertaken ++ sampleWriteBack)).data.sessions.find? 0).map Session.isLive =
        some true := by
    decide +kernel
  rw [found, Option.map_some, dead] at revived
  cases revived

/-- The refresh has ended before the revocation. -/
def sampleRefreshFirst : List (Bool × Turn) :=
  List.replicate 6 (false, .advance) ++ List.replicate 4 (true, .advance)

theorem revocation_after_refresh :
    RevocationPermanent sampleCrypto sampleAccount sampleRace sampleRefreshFirst :=
  revocation_permanent sampleCrypto sampleAccount sampleRace sampleRefreshFirst
    (by decide +kernel)

end Sample

end Tchuno.Auth
