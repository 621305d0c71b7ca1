import Mathlib.Data.List.Perm.Subperm
import Tchuno.Auth.Revocation
import Tchuno.Library.Additions

/-!
# Refresh tokens under concurrent refreshes

A refresh compares the digest of the token when it reads the session and replaces it in a
later statement, whatever it is then.  A token is spent at most once as long as the row
still has the digest of the token when it is locked to replace it.
-/

namespace Tchuno.Auth

open Tchuno.Library Tchuno.Library.Ecma

variable {Token Digest : Type} [DecidableEq Digest]

/-! ## The calls -/

/-- The inputs of a refresh. -/
structure RefreshCall (Token : Type) where
  refreshToken : Option Token
  clientInfo : Option SessionClientInfo
  draws : Draws
  now : Time

def RefreshCall.procedure (call : RefreshCall Token) (crypto : Crypto Token Digest) :
    Procedure Token Digest (AuthResponse Token) :=
  refresh crypto call.refreshToken call.clientInfo call.draws call.now

/-- The session the call has accepted the token for. -/
def RefreshCall.accepts (call : RefreshCall Token) (crypto : Crypto Token Digest)
    (seen : Option (Database Token Digest)) : Option SessionId :=
  (AuthCall.refresh call.refreshToken call.clientInfo call.draws call.now).renews crypto seen

/-- When the call locks the session to replace the digest, the row still has that of the
token. -/
def RefreshCall.Unspent (call : RefreshCall Token) (crypto : Crypto Token Digest)
    (seen : Option (Database Token Digest)) :
    Statement (Target Digest) → Database Token Digest → Prop
  | .lock (.session sessionId), database =>
      call.accepts crypto seen = some sessionId →
        ∀ token ∈ call.refreshToken, ∀ session ∈ database.sessions.find? sessionId,
          session.refreshTokenHash = crypto.sha256 token
  | _, _ => True

instance RefreshCall.decidableUnspent (call : RefreshCall Token)
    (crypto : Crypto Token Digest) (seen : Option (Database Token Digest))
    (statement : Statement (Target Digest)) (database : Database Token Digest) :
    Decidable (call.Unspent crypto seen statement database) :=
  match statement with
  | .lock (.session sessionId) =>
      inferInstanceAs (Decidable (call.accepts crypto seen = some sessionId →
        ∀ token ∈ call.refreshToken, ∀ session ∈ database.sessions.find? sessionId,
          session.refreshTokenHash = crypto.sha256 token))
  | .lock (.user _) | .lock (.userKey _) | .lock (.email _) | .lock (.sessionKey _) |
    .lock (.refreshTokenHash _) | .lock .sessions | .look _ | .write | .commit | .rollback =>
      inferInstanceAs (Decidable True)

/-! ## Counting a digest -/

/-- In how many sessions a digest is stored. -/
def Database.storedTimes (database : Database Token Digest) (digest : Digest) : Int :=
  database.sessions.total fun session => if session.refreshTokenHash = digest then 1 else 0

/-- How many tokens with the digest were issued. -/
def Database.issuedTimes (database : Database Token Digest) (crypto : Crypto Token Digest)
    (digest : Digest) : Int :=
  (database.issued.map fun entry => crypto.sha256 entry.2).count digest

/-- How often a digest counts for another. -/
def matching (digest other : Digest) : Int :=
  if other = digest then 1 else 0

theorem storedTimes_revokeMany (database : Database Token Digest)
    (accept : Session Digest → Bool) (now : Time) (digest : Digest) :
    (database.revokeMany accept now).storedTimes digest = database.storedTimes digest :=
  @Table.total_updateMany_of_eq _ _ _ (fun session => accept session && session.isLive)
    (revokedSession now) (fun _ => rfl) _ fun _ _ _ => rfl

theorem storedTimes_renew {database : Database Token Digest} {snapshot row : Session Digest}
    (stored : database.sessions.find? snapshot.id = some row) (token : Token)
    (renewed digest : Digest) (clientInfo : Option SessionClientInfo) (now : Time) :
    (database.renew snapshot token renewed clientInfo now).storedTimes digest =
      database.storedTimes digest +
        (matching digest renewed - matching digest row.refreshTokenHash) :=
  @Table.total_update _ _ _ (renewedSession snapshot renewed clientInfo now) (fun _ => rfl) _ _
    stored _

theorem issuedTimes_renew (database : Database Token Digest) (crypto : Crypto Token Digest)
    (snapshot : Session Digest) (token : Token) (digest : Digest)
    (clientInfo : Option SessionClientInfo) (now : Time) :
    (database.renew snapshot token (crypto.sha256 token) clientInfo now).issuedTimes crypto
        digest =
      database.issuedTimes crypto digest + matching digest (crypto.sha256 token) := by
  simp only [Database.issuedTimes, Database.renew, List.map_cons, List.count_cons, matching,
    beq_iff_eq]
  split_ifs <;> simp

/-- The digest of a token is stored no more often than tokens with it were issued, less
those which were spent. -/
def Database.Covers (database : Database Token Digest) (crypto : Crypto Token Digest)
    (digest : Digest) (spent : Nat) : Prop :=
  (∃ token, crypto.IsSigned token ∧ crypto.sha256 token = digest) →
    spent + database.storedTimes digest ≤ database.issuedTimes crypto digest

/-! ## The discipline -/

/-- The calls which have spent a token with the digest are remembered, and the digest of a
session is changed only under its lock. -/
def spendingDiscipline {ι : Type} (crypto : Crypto Token Digest)
    (calls : ι → RefreshCall Token) (digest : Digest) :
    Discipline (Database Token Digest × List ι) (Database Token Digest) (Target Digest) ι where
  data := Prod.fst
  invariant := fun state => state.1.Covers crypto digest state.2.length ∧
    ∀ entry ∈ state.1.issued, crypto.IsSigned entry.2
  same := fun row before after => ∀ sessionId, row = .session sessionId →
    (after.1.sessions.find? sessionId).map Session.refreshTokenHash =
      (before.1.sessions.find? sessionId).map Session.refreshTokenHash
  grows := fun before after => before.2 ⊆ after.2
  allowed := fun client => (calls client).Unspent crypto

section Calls

variable {ι : Type} {crypto : Crypto Token Digest} {calls : ι → RefreshCall Token}
  {digest : Digest} {client : ι}

@[simp]
theorem spendingDiscipline_data (state : Database Token Digest × List ι) :
    (spendingDiscipline crypto calls digest).data state = state.1 := rfl

/-- The call is among those which have spent the digest, if it presents it. -/
def HasSpent (crypto : Crypto Token Digest) (calls : ι → RefreshCall Token) (digest : Digest)
    (client : ι) (state : Database Token Digest × List ι) : Prop :=
  ∀ token ∈ (calls client).refreshToken, crypto.sha256 token = digest → client ∈ state.2

/-- A call which returns tokens has presented one, and spent it. -/
def SpendsToReturn (crypto : Crypto Token Digest) (calls : ι → RefreshCall Token)
    (digest : Digest) (client : ι) (result : Except AuthError (AuthResponse Token))
    (_ : Option (Database Token Digest)) (state : Database Token Digest × List ι) : Prop :=
  ∀ response, result = .ok response →
    (∀ token ∈ (calls client).refreshToken, crypto.IsSigned token) ∧
      HasSpent crypto calls digest client state

theorem spending_tolerates :
    (spendingDiscipline crypto calls digest).Tolerates (· = ·) where
  refl := fun _ => rfl
  trans := fun early late => early.trans late
  keeps := by
    rintro before _ rfl invariant
    exact ⟨before, rfl, invariant, fun _ member => member, fun _ _ _ _ => rfl⟩

theorem carries_revokeSessions_spending (accept : Session Digest → Bool) (now : Time) :
    (spendingDiscipline crypto calls digest).Carries client (· = ·)
      (revokeSessions accept now : Procedure Token Digest Unit) := by
  refine carries_revokeSessions_of spending_tolerates fun held found state locked invariant => ?_
  refine ⟨(state.1.revokeMany _ now, state.2), rfl, ⟨?_, invariant.2⟩, fun _ member => member,
    ?_⟩
  · simp only [Database.Covers, storedTimes_revokeMany]
    exact invariant.1
  · rintro _ _ sessionId rfl
    rw [find?_revokeMany, Option.map_map]
    refine Option.map_congr fun session _ => ?_
    simp only [Function.comp_apply]
    split_ifs <;> rfl

/-- The session is stored with the digest of the token. -/
def Database.StoresDigest (database : Database Token Digest) (sessionId : SessionId)
    (digest : Digest) : Prop :=
  (database.sessions.find? sessionId).map Session.refreshTokenHash = some digest

theorem storesDigest_stable {held : Set (Target Digest)} {sessionId : SessionId}
    (locked : Target.session sessionId ∈ held) (presented : Digest) :
    (spendingDiscipline crypto calls digest).Stable held fun state =>
      state.1.StoresDigest sessionId presented := by
  intro before after _ same _ stores
  exact (same _ locked sessionId rfl).trans stores

/-- The digest of the row is that of the token, if there is a row. -/
theorem unspent_stable {held : Set (Target Digest)} {sessionId : SessionId}
    (locked : Target.session sessionId ∈ held) (presented : Digest) :
    (spendingDiscipline crypto calls digest).Stable held fun state =>
      ∀ session ∈ state.1.sessions.find? sessionId, session.refreshTokenHash = presented := by
  intro before after _ same _ unspent session found
  have sameDigest := same _ locked sessionId rfl
  rw [found, Option.map_some] at sameDigest
  obtain ⟨row, foundBefore, sameRow⟩ := Option.map_eq_some_iff.mp sameDigest.symm
  rw [← sameRow]
  exact unspent row foundBefore

/-- The state after a token was replaced by a call which has presented it. -/
def replaced (crypto : Crypto Token Digest) (digest presented : Digest) (client : ι)
    (snapshot : Session Digest) (token : Token) (clientInfo : Option SessionClientInfo)
    (now : Time) (state : Database Token Digest × List ι) : Database Token Digest × List ι :=
  (state.1.renew snapshot token (crypto.sha256 token) clientInfo now,
    if presented = digest then client :: state.2 else state.2)

theorem keeps_replaced {held : Set (Target Digest)} {state : Database Token Digest × List ι}
    {snapshot : Session Digest} {presented : Digest} {token : Token}
    {clientInfo : Option SessionClientInfo} {now : Time}
    (locked : Target.session snapshot.id ∈ held)
    (stores : state.1.StoresDigest snapshot.id presented) (signed : crypto.IsSigned token)
    (invariant : (spendingDiscipline crypto calls digest).invariant state) :
    (spendingDiscipline crypto calls digest).Keeps held state
      (replaced crypto digest presented client snapshot token clientInfo now state) := by
  obtain ⟨covered, allSigned⟩ := invariant
  obtain ⟨row, found, sameDigest⟩ := Option.map_eq_some_iff.mp stores
  refine ⟨⟨?_, ?_⟩, ?_, ?_⟩
  · intro ofToken
    have stored := storedTimes_renew found token (crypto.sha256 token) digest clientInfo now
    have issued := issuedTimes_renew state.1 crypto snapshot token digest clientInfo now
    have coveredBefore := covered ofToken
    rw [sameDigest] at stored
    simp only [replaced]
    rw [stored, issued, matching, matching]
    by_cases spends : presented = digest
    · rw [if_pos spends, if_pos spends, List.length_cons]
      push_cast
      omega
    · rw [if_neg spends, if_neg spends]
      omega
  · intro entry member
    rcases List.mem_cons.mp member with rfl | older
    · exact signed
    · exact allSigned entry older
  · intro other member
    simp only [replaced]
    split_ifs
    · exact List.mem_cons_of_mem _ member
    · exact member
  · rintro _ free sessionId rfl
    have apart : sessionId ≠ snapshot.id := by
      rintro rfl
      exact free locked
    simp only [replaced]
    rw [find?_renew, if_neg apart]

omit [DecidableEq Digest] in
theorem hasSpent_of_subset {before after : Database Token Digest × List ι}
    (larger : before.2 ⊆ after.2) (spent : HasSpent crypto calls digest client before) :
    HasSpent crypto calls digest client after :=
  fun token presented same => larger (spent token presented same)

theorem hasSpent_stable {held : Set (Target Digest)} :
    (spendingDiscipline crypto calls digest).Stable held
      (HasSpent crypto calls digest client) :=
  fun _ _ _ _ grows => hasSpent_of_subset grows

theorem hasSpent_replaced {token presented : Token}
    (own : (calls client).refreshToken = some presented) (snapshot : Session Digest)
    (clientInfo : Option SessionClientInfo) (now : Time)
    (state : Database Token Digest × List ι) :
    HasSpent crypto calls digest client
      (replaced crypto digest (crypto.sha256 presented) client snapshot token clientInfo now
        state) := by
  intro other given same
  have sameToken : other = presented := Option.some.inj (given.symm.trans own)
  rw [sameToken] at same
  simp only [replaced, if_pos same]
  exact List.mem_cons_self

/-- A failed call has spent nothing. -/
theorem ends_error (error : AuthError)
    (standing : Standing (Database Token Digest × List ι) (Database Token Digest)
      (Target Digest)) :
    (spendingDiscipline crypto calls digest).Ends (SpendsToReturn crypto calls digest) client
      (.error error) standing :=
  fun _ _ _ _ returned => nomatch returned

theorem safe_replace {token : Token} {user : User} {session : Session Digest}
    {standing : Standing (Database Token Digest × List ι) (Database Token Digest)
      (Target Digest)}
    (presented : (calls client).refreshToken = some token)
    (decided : (calls client).accepts crypto standing.seen = some session.id)
    (signed : crypto.IsSigned token)
    (settled : ∀ database, database = standing.pending database) :
    (spendingDiscipline crypto calls digest).Safe client
      ((spendingDiscipline crypto calls digest).Ends (SpendsToReturn crypto calls digest) client)
      standing
      (issueTokensFor crypto user (calls client).clientInfo session (calls client).draws.jti
        (calls client).now) := by
  refine Discipline.safe_script_bind (Discipline.safe_transaction
    (Discipline.safe_lockAll_cons_bind ?_))
  intro state _ _ allowed
  have locked : Target.session session.id ∈ insert (Target.session session.id) standing.held :=
    Set.mem_insert _ _
  -- the row has the digest of the token when its lock is granted
  have unspent : ∀ row ∈ state.1.sessions.find? session.id,
      row.refreshTokenHash = crypto.sha256 token := allowed decided token presented
  refine ⟨_, unspent, unspent_stable locked _, ?_⟩
  refine Discipline.safe_lockAll_bind (unspent_stable locked _) fun held larger _ => ?_
  refine Discipline.safe_consult_bind fun later _ unspentLater _ => ?_
  rw [spendingDiscipline_data, ← settled later.1]
  cases found : later.1.sessions.find? session.id with
  | none =>
      exact ⟨fun _ => True, trivial, Discipline.stable_true _, fun _ => True,
        fun _ _ _ => trivial, Discipline.stable_true _, ends_error _ _⟩
  | some row =>
      have stores : later.1.StoresDigest session.id (crypto.sha256 token) := by
        rw [Database.StoresDigest, found, Option.map_some, unspentLater row found]
      refine ⟨_, stores, storesDigest_stable (larger locked) _, ?_⟩
      simp only [Option.isNone_some, Bool.false_eq_true, if_false]
      split_ifs with admitted
      · intro last invariant storesLast _
        let refreshed := crypto.sign .refresh
          (refreshClaims user session (calls client).draws.jti (calls client).now)
        refine ⟨replaced crypto digest (crypto.sha256 token) client session refreshed
            (calls client).clientInfo (calls client).now last, ?_,
          keeps_replaced (larger locked) storesLast ⟨_, _, rfl⟩ invariant, _,
          hasSpent_replaced presented _ _ _ _, hasSpent_stable, ?_⟩
        · simp only [spendingDiscipline_data, replaced, Function.comp_apply]
          rw [← settled last.1]
        · refine fun _ _ spent _ _ => ⟨fun other given => ?_, spent⟩
          exact Option.some.inj (presented.symm.trans given) ▸ signed
      · exact ⟨fun _ => True, fun _ _ _ => trivial, Discipline.stable_true _, ends_error _ _⟩

theorem safe_refreshCall (sound : crypto.Sound) :
    (spendingDiscipline crypto calls digest).Safe client
      ((spendingDiscipline crypto calls digest).Ends
        (SpendsToReturn crypto calls digest) client)
      (Standing.initial _ _ _) ((calls client).procedure crypto) := by
  unfold RefreshCall.procedure refresh
  cases valid : presented? crypto (calls client).refreshToken (calls client).now with
  | none =>
      exact ends_error _ _
  | some presented =>
      obtain ⟨token, payload⟩ := presented
      refine Discipline.safe_select_bind fun state _ _ _ => ⟨fun _ => True, trivial,
        Discipline.stable_true _, ?_⟩
      simp only [spendingDiscipline_data, Standing.initial, id_eq]
      cases verdict : state.1.judge crypto token payload with
      | refused =>
          exact ends_error _ _
      | reused session =>
          refine Discipline.safe_script_bind (carries_revokeSessions_spending _ _ _ _
            ⟨Discipline.stable_true _, fun _ => rfl⟩ fun result middle _ => ?_)
          cases result with
          | ok value =>
              exact ends_error _ _
          | error error =>
              exact ends_error _ _
      | accepted session user =>
          obtain ⟨given, verified⟩ := presented?_eq_some.mp valid
          obtain ⟨claims, decoded, _⟩ := verifyRefreshToken_eq_some.mp verified
          refine safe_replace given ?_ (sound.signed_of_decode decoded) fun _ => rfl
          simp [RefreshCall.accepts, AuthCall.renews, valid, verdict]

end Calls

/-! ## Before the run -/

section Start

variable {crypto : Crypto Token Digest} {database : Database Token Digest}

theorem storedTimes_eq (digest : Digest) :
    database.storedTimes digest =
      ((database.sessions.rows.filter fun session =>
        session.refreshTokenHash = digest).length : Int) := by
  simp only [Database.storedTimes, Table.total]
  induction database.sessions.rows with
  | nil =>
      rfl
  | cons session rest inductionHypothesis =>
      rw [List.map_cons, List.sum_cons, inductionHypothesis, List.filter_cons]
      by_cases same : session.refreshTokenHash = digest
      · simp [same]
        omega
      · simp [same]

/-- Sessions which store the digest of a token were issued tokens with it, each its own. -/
theorem covers_of_linked (sound : crypto.Sound) (linked : database.Linked crypto)
    (digest : Digest) : database.Covers crypto digest 0 := by
  rintro ⟨token, signed, rfl⟩
  let storing := database.sessions.rows.filter fun session =>
    session.refreshTokenHash = crypto.sha256 token
  let issuing := database.issued.filter fun entry => crypto.sha256 entry.2 = crypto.sha256 token
  have distinct : (storing.map Session.id).Nodup :=
    (database.sessions.distinct).sublist (List.filter_sublist.map _)
  have issued : storing.map Session.id ⊆ issuing.map Prod.fst := by
    intro sessionId member
    obtain ⟨session, chosen, rfl⟩ := List.mem_map.mp member
    obtain ⟨present, same⟩ := List.mem_filter.mp chosen
    have sameDigest := of_decide_eq_true same
    rcases linked.digest session present with ⟨newest, older, tokens, stored⟩ | ⟨_, uuid, stored⟩
    · have newestIssued : newest ∈ database.issuedFor session.id := by
        rw [tokens]
        exact List.mem_cons_self
      refine List.mem_map.mpr ⟨(session.id, newest), List.mem_filter.mpr
        ⟨mem_issued_of_issuedFor newestIssued, ?_⟩, rfl⟩
      simp [← stored, sameDigest]
    · exact absurd (stored.symm.trans sameDigest) (sound.sha256_uuid signed)
  have fewer : storing.length ≤ issuing.length := by
    simpa using (List.subperm_of_subset distinct issued).length_le
  have counted : (database.issued.map fun entry => crypto.sha256 entry.2).count
      (crypto.sha256 token) = issuing.length := by
    rw [List.count, List.countP_map, List.countP_eq_length_filter]
    congr 1
  rw [storedTimes_eq, Database.issuedTimes, counted]
  change ((0 : Nat) : Int) + (storing.length : Int) ≤ _
  omega

end Start

/-! ## Identifiers of tokens -/

section Identifiers

variable {crypto : Crypto Token Digest}

/-- The identifier an issued token carries. -/
def tokenId (crypto : Crypto Token Digest) (entry : SessionId × Token) : Option String :=
  (crypto.decode .refresh entry.2).bind Claims.jti

/-- No identifier is drawn twice: the tokens issued so far carry different ones, and the
calls have drawn others. -/
structure DrawnOnce {ι : Type} (crypto : Crypto Token Digest)
    (database : Database Token Digest) (calls : ι → RefreshCall Token) : Prop where
  issued : (database.issued.map (tokenId crypto)).Nodup
  apart : Function.Injective fun client => (calls client).draws.jti
  unused : ∀ client, some (calls client).draws.jti.val ∉ database.issued.map (tokenId crypto)

omit [DecidableEq Digest] in
theorem leaves_revokeSessions (accept : Session Digest → Bool) (now : Time) :
    (revokeSessions accept now : Procedure Token Digest Unit).Leaves
      (SameHistory Database.issued) True := by
  refine Script.Leaves.transaction (Script.Leaves.bind (Script.leaves_select _ _) fun _ => ?_)
  exact Script.Leaves.bind (Script.leaves_lockAll _) fun _ => Script.leaves_write fun _ => rfl

theorem adds_issueTokensFor (sound : crypto.Sound) (user : User)
    (clientInfo : Option SessionClientInfo) (session : Session Digest) (jti : Uuid)
    (now : Time) :
    (issueTokensFor crypto user clientInfo session jti now).Adds Database.issued
      (tokenId crypto) (some jti.val) := by
  refine Script.Adds.bind (Script.Adds.transaction ?_) fun _ => Script.leaves_pure _
  refine Script.Leaves.bind_adds (Script.leaves_lockAll _) fun _ => ?_
  refine Script.Leaves.bind_adds (Script.leaves_consult _ _) fun _ => ?_
  refine Script.adds_write fun _ => ⟨_, ?_, rfl⟩
  rw [tokenId, sound.decode_sign]
  rfl

/-- A refresh issues one token at most, with the identifier it has drawn. -/
theorem adds_refreshCall (sound : crypto.Sound) (call : RefreshCall Token) :
    (call.procedure crypto).Adds Database.issued (tokenId crypto)
      (some call.draws.jti.val) := by
  unfold RefreshCall.procedure refresh
  cases presented? crypto call.refreshToken call.now with
  | none =>
      trivial
  | some presented =>
      obtain ⟨token, payload⟩ := presented
      refine Script.Leaves.bind_adds (Script.leaves_select _ _) fun verdict => ?_
      cases verdict with
      | refused =>
          trivial
      | reused session =>
          refine Script.Leaves.adds (Script.Leaves.bind (leaves_revokeSessions _ _) fun _ => ?_)
          exact Script.leaves_fail _
      | accepted session user =>
          exact adds_issueTokensFor sound user call.clientInfo session call.draws.jti call.now

omit [DecidableEq Digest] in
/-- Signed tokens with different identifiers have different digests. -/
theorem sha256_nodup (sound : crypto.Sound) {issued : List (SessionId × Token)}
    (signed : ∀ entry ∈ issued, crypto.IsSigned entry.2)
    (distinct : (issued.map (tokenId crypto)).Nodup) :
    (issued.map fun entry => crypto.sha256 entry.2).Nodup := by
  rw [List.Nodup, List.pairwise_map] at distinct ⊢
  refine distinct.imp_of_mem fun {early late} earlyIssued lateIssued apart same => apart ?_
  have sameToken : early.2 = late.2 :=
    sound.sha256_injective (signed early earlyIssued) (signed late lateIssued) same
  rw [tokenId, tokenId, sameToken]

end Identifiers

/-! ## Spent at most once -/

section SpentOnce

variable {ι : Type} [DecidableEq ι]

/-- A run of refreshes from a database. -/
def refreshRun (crypto : Crypto Token Digest) (database : Database Token Digest)
    (calls : ι → RefreshCall Token) (schedule : List (ι × Turn)) :
    Cluster (Database Token Digest) (Target Digest) ι
      (Except AuthError (AuthResponse Token)) :=
  (readCommitted _ _ ι _).run
    (Cluster.start database fun client => (calls client).procedure crypto) schedule

/-- The call has presented the token and returned new ones. -/
def Spends (crypto : Crypto Token Digest) (database : Database Token Digest)
    (calls : ι → RefreshCall Token) (schedule : List (ι × Turn)) (token : Token)
    (client : ι) : Prop :=
  (calls client).refreshToken = some token ∧
    ∃ response, ((refreshRun crypto database calls schedule).session client).program =
      .done (.ok response)

/-- No two calls of the run spend one token. -/
def SpentOnce (crypto : Crypto Token Digest) (database : Database Token Digest)
    (calls : ι → RefreshCall Token) (schedule : List (ι × Turn)) : Prop :=
  ∀ token first second, Spends crypto database calls schedule token first →
    Spends crypto database calls schedule token second → first = second

/-- From any state the accounts can be in: every token is spent at most once in a run in
which each refresh replaces the digest it has compared. -/
theorem token_spent_once (crypto : Crypto Token Digest) (sound : crypto.Sound)
    (history : List (AuthCall Token)) (calls : ι → RefreshCall Token)
    (drawn : DrawnOnce crypto
      ((accounts crypto).run (Database.initial Token Digest) history) calls)
    (schedule : List (ι × Turn))
    (unspent : (readCommitted (Database Token Digest) (Target Digest) ι
        (Except AuthError (AuthResponse Token))).Along
      (Cluster.Obeys fun client => (calls client).Unspent crypto)
      (Cluster.start ((accounts crypto).run (Database.initial Token Digest) history)
        fun client => (calls client).procedure crypto) schedule) :
    SpentOnce crypto ((accounts crypto).run (Database.initial Token Digest) history) calls
      schedule := by
  let database := (accounts crypto).run (Database.initial Token Digest) history
  have linked : database.Linked crypto := (run_effects history).linked initial_linked
  have signedBefore : ∀ entry ∈ database.issued, crypto.IsSigned entry.2 := by
    intro entry issued
    obtain ⟨_, _, _, user, jti, now, _, signed⟩ := linked.signed entry issued
    exact ⟨_, _, signed⟩
  rintro token first second ⟨presentedFirst, responseFirst, returnedFirst⟩
    ⟨presentedSecond, responseSecond, returnedSecond⟩
  obtain ⟨after, lawful⟩ := @Discipline.run_lawful _ _ _ _ _
    (spendingDiscipline crypto calls (crypto.sha256 token))
    (SpendsToReturn crypto calls (crypto.sha256 token)) _ _ (database, [])
    ⟨covers_of_linked sound linked _, signedBefore⟩ _ (fun client => safe_refreshCall sound)
    schedule unspent
  have sameData : after.1 = (refreshRun crypto database calls schedule).data := lawful.data
  obtain ⟨covered, signedAfter⟩ := lawful.invariant
  obtain ⟨signed, spentFirst⟩ := lawful.post_of_done returnedFirst responseFirst rfl
  obtain ⟨_, spentSecond⟩ := lawful.post_of_done returnedSecond responseSecond rfl
  have bound := covered ⟨token, signed token presentedFirst, rfl⟩
  -- only one token with the digest was issued
  have distinct : (after.1.issued.map (tokenId crypto)).Nodup := by
    rw [sameData]
    exact keys_nodup_of_adds
      (fun _ _ same => drawn.apart (Subtype.ext (Option.some.inj same))) drawn.issued
      drawn.unused (fun client => adds_refreshCall sound (calls client)) schedule
  have issuedOnce : (after.1.issued.map fun entry => crypto.sha256 entry.2).count
      (crypto.sha256 token) ≤ 1 :=
    List.nodup_iff_count_le_one.mp (sha256_nodup sound signedAfter distinct) _
  have stored : 0 ≤ after.1.storedTimes (crypto.sha256 token) := by
    rw [storedTimes_eq]
    exact Int.natCast_nonneg _
  have few : after.2.length ≤ 1 := by
    simp only [Database.issuedTimes] at bound
    omega
  have firstSpent : first ∈ after.2 := spentFirst token presentedFirst rfl
  have secondSpent : second ∈ after.2 := spentSecond token presentedSecond rfl
  obtain ⟨only, sole⟩ := List.length_eq_one_iff.mp
    (le_antisymm few (List.length_pos_of_mem firstSpent))
  rw [sole, List.mem_singleton] at firstSpent secondSpent
  exact firstSpent.trans secondSpent.symm

end SpentOnce

/-! ## A token which is spent twice -/

section Sample

/-- Two clients present the token of a session. -/
def sampleRefreshes (client : Bool) : RefreshCall SampleToken where
  refreshToken := some (sampleToken 0 (sampleUuid "device" 0) 0 1000)
  clientInfo := none
  draws := sampleDraws (if client then 1 else 2)
  now := if client then 2000 else 2001

/-- Both have compared the digest before one of them replaces it. -/
def sampleOverlap : List (Bool × Turn) :=
  (false, .advance) :: List.replicate 6 (true, .advance) ++ List.replicate 5 (false, .advance)

theorem token_spent_twice :
    ¬ SpentOnce sampleCrypto sampleAccount sampleRefreshes sampleOverlap := by
  intro once
  have same : false = true := once _ false true ⟨rfl, _, rfl⟩ ⟨rfl, _, rfl⟩
  cases same

/-- One after the other; the second is taken for a thief. -/
def sampleRefreshesInTurn : List (Bool × Turn) :=
  List.replicate 6 (true, .advance) ++ List.replicate 6 (false, .advance)

theorem refreshes_in_turn :
    SpentOnce sampleCrypto sampleAccount sampleRefreshes sampleRefreshesInTurn :=
  token_spent_once sampleCrypto sampleCrypto_sound
    [.register sampleRegistration none (sampleDraws 0) 1000] sampleRefreshes
    { issued := by decide +kernel
      apart := by
        unfold Function.Injective
        decide +kernel
      unused := by decide +kernel }
    sampleRefreshesInTurn (by decide +kernel)

end Sample

end Tchuno.Auth
