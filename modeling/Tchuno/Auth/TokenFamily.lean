import Tchuno.Auth.Histories

/-!
# The tokens of a session

Every session stores the digest of the token issued for it last.  So only that token
refreshes it, and any earlier one gives away that it was used twice, which revokes the
session for good.
-/

namespace Tchuno.Auth

open Tchuno.Library Tchuno.Library.Ecma Tchuno.Library.Script

variable {Token Digest : Type}

/-- The refresh tokens issued for a session, newest first. -/
def Database.issuedFor (database : Database Token Digest) (sessionId : SessionId) :
    List Token :=
  (database.issued.filter fun entry => entry.1 = sessionId).map Prod.snd

/-! ## Sessions and their history -/

/-- What never changes in the row of a session. -/
def Session.fixed (session : Session Digest) : SessionId × UserId × String :=
  (session.id, session.userId, session.deviceId)

/-- The session row goes with the tokens issued for it. -/
structure Database.Linked (database : Database Token Digest) (crypto : Crypto Token Digest) :
    Prop where
  /-- the digest is that of the newest token, or of nothing that was issued -/
  digest : ∀ session ∈ database.sessions,
    (∃ token older, database.issuedFor session.id = token :: older ∧
      session.refreshTokenHash = crypto.sha256 token) ∨
    (database.issuedFor session.id = [] ∧
      ∃ uuid, session.refreshTokenHash = crypto.sha256 (crypto.ofUuid uuid))
  device : ∀ session ∈ database.sessions, session.deviceId ≠ ""
  /-- a token carries what identifies its session -/
  signed : ∀ entry ∈ database.issued, ∃ session ∈ database.sessions, session.id = entry.1 ∧
    ∃ user jti now, user.id = session.userId ∧
      entry.2 = crypto.sign .refresh (refreshClaims user session jti now)

theorem mem_issued_of_issuedFor {database : Database Token Digest} {sessionId : SessionId}
    {token : Token} (member : token ∈ database.issuedFor sessionId) :
    (sessionId, token) ∈ database.issued := by
  obtain ⟨⟨_, _⟩, chosen, rfl⟩ := List.mem_map.mp member
  obtain ⟨issued, same⟩ := List.mem_filter.mp chosen
  obtain rfl := of_decide_eq_true same
  exact issued

theorem issuedFor_renew (database : Database Token Digest) (session : Session Digest)
    (token : Token) (digest : Digest) (clientInfo : Option SessionClientInfo) (now : Time)
    (sessionId : SessionId) :
    (database.renew session token digest clientInfo now).issuedFor sessionId =
      if session.id = sessionId then token :: database.issuedFor sessionId
      else database.issuedFor sessionId := by
  by_cases same : session.id = sessionId <;> simp [Database.issuedFor, Database.renew, same]

/-- The claims are made of what never changes in the session. -/
theorem refreshClaims_of_fixed {session later : Session Digest}
    (same : later.fixed = session.fixed) (user : User) (jti : Uuid) (now : Time) :
    refreshClaims user later jti now = refreshClaims user session jti now := by
  simp only [Session.fixed, Prod.mk.injEq] at same
  simp only [refreshClaims, same.1, same.2.2]

section Effects

variable [DecidableEq Digest] {crypto : Crypto Token Digest}
  {before after : Database Token Digest}

theorem Effect.sessions_evolve (effect : Effect crypto before after) :
    Table.Evolves Session.fixed before.sessions after.sessions := by
  cases effect with
  | userCreated row admitted =>
      exact .refl _ _
  | userUpdated userId change keeps =>
      exact .refl _ _
  | revoked accept now =>
      exact .updateMany _ _ _ (revokedSession now) (fun _ => rfl) fun _ => rfl
  | opened user clientInfo draws now admitted =>
      exact .place _ _ _
  | renewed user session clientInfo jti now stored live own =>
      exact .update _ _ _ (renewedSession session _ clientInfo now) (fun _ => rfl) fun _ => rfl

omit [DecidableEq Digest] in
theorem Database.Linked.signed_of_evolves (linked : before.Linked crypto)
    (evolves : Table.Evolves Session.fixed before.sessions after.sessions)
    {entry : SessionId × Token} (issued : entry ∈ before.issued) :
    ∃ session ∈ after.sessions, session.id = entry.1 ∧
      ∃ user jti now, user.id = session.userId ∧
        entry.2 = crypto.sign .refresh (refreshClaims user session jti now) := by
  obtain ⟨session, member, sameId, user, jti, now, own, token⟩ := linked.signed entry issued
  obtain ⟨later, found, same⟩ := evolves _ session
    (before.sessions.find?_eq_some_iff.mpr ⟨member, rfl⟩)
  have fixed := same
  simp only [Session.fixed, Prod.mk.injEq] at fixed
  refine ⟨later, after.sessions.mem_of_find? found, fixed.1.trans sameId, user, jti, now,
    own.trans fixed.2.1.symm, ?_⟩
  rw [refreshClaims_of_fixed same]
  exact token

theorem Effect.linked (effect : Effect crypto before after) (linked : before.Linked crypto) :
    after.Linked crypto := by
  have signed := fun entry (issued : entry ∈ before.issued) =>
    linked.signed_of_evolves effect.sessions_evolve issued
  cases effect with
  | userCreated row admitted =>
      exact ⟨linked.digest, linked.device, linked.signed⟩
  | userUpdated userId change keeps =>
      exact ⟨linked.digest, linked.device, linked.signed⟩
  | revoked accept now =>
      refine ⟨?_, ?_, signed⟩
      · intro session member
        obtain ⟨old, present, rfl⟩ := exists_of_mem_revokeMany member
        have same := linked.digest old present
        split_ifs <;> exact same
      · intro session member
        obtain ⟨old, present, rfl⟩ := exists_of_mem_revokeMany member
        have same := linked.device old present
        split_ifs <;> exact same
  | opened user clientInfo draws now admitted =>
      refine ⟨?_, ?_, signed⟩
      · intro session member
        rcases Table.eq_or_mem_of_place member with rfl | present
        · refine .inr ⟨?_, draws.refreshTokenSeed, rfl⟩
          -- no token was issued for an identifier which is free
          have free := (admitsSession_iff.mp admitted).1
          rw [Database.issuedFor, List.map_eq_nil_iff, List.filter_eq_nil_iff]
          intro entry issued same
          obtain ⟨old, present, sameId, _⟩ := linked.signed entry issued
          refine Table.find?_eq_none_iff _ |>.mp free old present ?_
          exact sameId.trans (of_decide_eq_true same)
        · exact linked.digest session present
      · intro session member
        rcases Table.eq_or_mem_of_place member with rfl | present
        · simp only [openedSession]
          cases device : truthy (clientInfo.bind SessionClientInfo.deviceId) with
          | none =>
              exact draws.deviceId.property
          | some given =>
              simp only [truthy, Option.filter_eq_some_iff] at device
              simpa using device.2
        · exact linked.device session present
  | renewed user session clientInfo jti now stored live own =>
      refine ⟨?_, ?_, ?_⟩
      · intro row member
        obtain ⟨old, present, rfl⟩ := exists_of_mem_renew member
        by_cases same : old.id = session.id
        · rw [if_pos same]
          exact .inl ⟨_, _, (issuedFor_renew ..).trans (if_pos same.symm), rfl⟩
        · rw [if_neg same, issuedFor_renew, if_neg fun other => same other.symm]
          exact linked.digest old present
      · intro row member
        obtain ⟨old, present, rfl⟩ := exists_of_mem_renew member
        have same := linked.device old present
        split_ifs <;> exact same
      · intro entry issued
        rcases List.mem_cons.mp issued with rfl | older
        · obtain ⟨later, found, same⟩ := (Effect.renewed before user session clientInfo jti now
            stored live own).sessions_evolve _ session stored
          have fixed := same
          simp only [Session.fixed, Prod.mk.injEq] at fixed
          refine ⟨later, Table.mem_of_find? _ found, fixed.1, user, jti, now,
            own.symm.trans fixed.2.1.symm, ?_⟩
          rw [refreshClaims_of_fixed same]
        · exact signed entry older

omit [DecidableEq Digest] in
theorem initial_linked : (Database.initial Token Digest).Linked crypto where
  digest := by simp [Database.initial]
  device := by simp [Database.initial]
  signed := by simp [Database.initial]

theorem Effects.linked (effects : Effects crypto before after)
    (linked : before.Linked crypto) : after.Linked crypto := by
  induction effects with
  | refl =>
      exact linked
  | tail _ effect inductionHypothesis =>
      exact effect.linked inductionHypothesis

/-! ## Revoked sessions -/

/-- The session is stored, and revoked. -/
def Database.IsRevoked (database : Database Token Digest) (sessionId : SessionId) : Prop :=
  ∃ session, database.sessions.find? sessionId = some session ∧ session.isLive = false

omit [DecidableEq Digest] in
theorem isRevoked_revokeMany {database : Database Token Digest} {sessionId : SessionId}
    {accept : Session Digest → Bool} {now : Time} {session : Session Digest}
    (found : database.sessions.find? sessionId = some session)
    (chosen : accept session = true ∨ session.isLive = false) :
    (database.revokeMany accept now).IsRevoked sessionId := by
  refine ⟨if accept session && session.isLive then revokedSession now session else session,
    by rw [find?_revokeMany, found]; rfl, ?_⟩
  split_ifs with hit
  · rfl
  · rcases chosen with accepted | dead
    · simpa [accepted] using hit
    · exact dead

theorem Effect.isRevoked (effect : Effect crypto before after) {sessionId : SessionId}
    (revoked : before.IsRevoked sessionId) : after.IsRevoked sessionId := by
  obtain ⟨session, found, dead⟩ := revoked
  cases effect with
  | userCreated row admitted =>
      exact ⟨session, found, dead⟩
  | userUpdated userId change keeps =>
      exact ⟨session, found, dead⟩
  | revoked accept now =>
      exact isRevoked_revokeMany found (.inr dead)
  | opened user clientInfo draws now admitted =>
      exact ⟨session, Table.find?_place_of_some found, dead⟩
  | renewed user renewed clientInfo jti now stored live own =>
      have apart : sessionId ≠ renewed.id := by
        rintro rfl
        rw [found] at stored
        cases stored
        rw [dead] at live
        cases live
      refine ⟨session, ?_, dead⟩
      rw [find?_renew, if_neg apart, found]

theorem Effects.isRevoked (effects : Effects crypto before after) {sessionId : SessionId}
    (revoked : before.IsRevoked sessionId) : after.IsRevoked sessionId := by
  induction effects with
  | refl =>
      exact revoked
  | tail _ effect inductionHypothesis =>
      exact effect.isRevoked inductionHypothesis

end Effects

/-! ## The family -/

section Family

variable [DecidableEq Digest] {crypto : Crypto Token Digest}
  {database : Database Token Digest}

/-- The token has a valid signature and has not expired. -/
def Crypto.Verifies (crypto : Crypto Token Digest) (token : Token) (now : Time) : Prop :=
  ∃ claims, crypto.decode .refresh token = some claims ∧ seconds now < claims.exp

/-- The user of the session is active. -/
def Database.IsActiveSession (database : Database Token Digest) (sessionId : SessionId) :
    Prop :=
  ∃ session user, database.sessions.find? sessionId = some session ∧
    database.users.find? session.userId = some user ∧ user.isActive = true

/-- No refresh with a token of the session returns. -/
def Database.RefusesSession (database : Database Token Digest)
    (crypto : Crypto Token Digest) (sessionId : SessionId) : Prop :=
  ∀ token, (crypto.decode .refresh token).bind Claims.sid = some sessionId →
    ∀ clientInfo draws now, ∃ error,
      ((refresh crypto (some token) clientInfo draws now).serve database).1 =
        some (.error error)

/-- The tokens of every session are a family of which only the newest is good. -/
structure TokenFamily (crypto : Crypto Token Digest) (database : Database Token Digest) :
    Prop where
  /-- what `refresh` accepts is the newest token of a session -/
  only_newest : ∀ token clientInfo draws now response,
    ((refresh crypto (some token) clientInfo draws now).serve database).1 =
      some (.ok response) →
    ∃ sessionId older, database.issuedFor sessionId = token :: older ∧
      ((refresh crypto (some token) clientInfo draws now).serve database).2.issuedFor
        sessionId = response.refreshToken :: token :: older
  /-- an older token fails, revokes the session, and so ends the whole family -/
  reuse : ∀ sessionId newest older, database.issuedFor sessionId = newest :: older →
    ∀ token ∈ older, ∀ now, crypto.Verifies token now → database.IsActiveSession sessionId →
    ∀ clientInfo draws,
      (∃ error, ((refresh crypto (some token) clientInfo draws now).serve database).1 =
        some (.error error)) ∧
      ((refresh crypto (some token) clientInfo draws now).serve database).2.IsRevoked
        sessionId ∧
      ∀ later : List (AuthCall Token),
        ((accounts crypto).run
          ((refresh crypto (some token) clientInfo draws now).serve database).2
          later).RefusesSession crypto sessionId

omit [DecidableEq Digest] in
theorem Database.Linked.signed_of_issued (linked : database.Linked crypto)
    {sessionId : SessionId} {token : Token} (issued : token ∈ database.issuedFor sessionId) :
    crypto.IsSigned token := by
  obtain ⟨_, _, _, user, jti, now, _, signed⟩ :=
    linked.signed _ (mem_issued_of_issuedFor issued)
  exact ⟨_, _, signed⟩

/-- The newest token is the one the session stores the digest of. -/
theorem issuedFor_of_accepted (sound : crypto.Sound) (linked : database.Linked crypto)
    {token : Token} {payload : RefreshTokenPayload} {now : Time} {session : Session Digest}
    {user : User} (valid : verifyRefreshToken crypto token now = some payload)
    (accepted : database.judge crypto token payload = .accepted session user) :
    ∃ older, database.issuedFor session.id = token :: older := by
  obtain ⟨found, _, _, _, _, _, digest⟩ := judge_eq_accepted accepted
  obtain ⟨claims, decoded, _⟩ := verifyRefreshToken_eq_some.mp valid
  have signed := sound.signed_of_decode decoded
  rcases linked.digest session (database.sessions.mem_of_find? found) with
    ⟨newest, older, issued, stored⟩ | ⟨_, uuid, stored⟩
  · have newestIssued : newest ∈ database.issuedFor session.id := by
      rw [issued]
      exact List.mem_cons_self
    have signedNewest := linked.signed_of_issued newestIssued
    obtain rfl := sound.sha256_injective signed signedNewest (digest.trans stored)
    exact ⟨older, issued⟩
  · exact absurd (stored.symm.trans digest.symm) (sound.sha256_uuid signed)

theorem refusesSession_of_isRevoked {sessionId : SessionId}
    (revoked : database.IsRevoked sessionId) : database.RefusesSession crypto sessionId := by
  intro token ofSession clientInfo draws now
  have refused : (refresh crypto (some token) clientInfo draws now).Serves
      (fun result _ => ∃ error, result = .error error) database := by
    refine serves_refresh (fun _ => ⟨_, rfl⟩) (fun _ _ _ _ _ => ⟨_, rfl⟩) ?_
    intro other payload session user presented accepted
    obtain ⟨same, valid⟩ := presented?_eq_some.mp presented
    cases same
    obtain ⟨claims, decoded, _, _, sid, _⟩ := verifyRefreshToken_eq_some.mp valid
    obtain ⟨found, live, _⟩ := judge_eq_accepted accepted
    obtain ⟨stored, foundRevoked, dead⟩ := revoked
    rw [decoded, Option.bind_some, sid] at ofSession
    rw [Option.some.inj ofSession, foundRevoked] at found
    rw [Option.some.inj found, live] at dead
    cases dead
  obtain ⟨result, served, error, failed⟩ := refused.serve
  exact ⟨error, by rw [served, failed]⟩

theorem only_newest_of_linked (sound : crypto.Sound) (linked : database.Linked crypto)
    {token : Token} {clientInfo : Option SessionClientInfo} {draws : Draws} {now : Time}
    {response : AuthResponse Token}
    (returned : ((refresh crypto (some token) clientInfo draws now).serve database).1 =
      some (.ok response)) :
    ∃ sessionId older, database.issuedFor sessionId = token :: older ∧
      ((refresh crypto (some token) clientInfo draws now).serve database).2.issuedFor
        sessionId = response.refreshToken :: token :: older := by
  have accepts : (refresh crypto (some token) clientInfo draws now).Serves
      (fun result after => ∀ response, result = .ok response →
        ∃ sessionId older, database.issuedFor sessionId = token :: older ∧
          after.issuedFor sessionId = response.refreshToken :: token :: older) database := by
    refine serves_refresh (fun _ _ => nofun) (fun _ _ _ _ _ _ => nofun) ?_
    intro other payload session user presented accepted
    obtain ⟨same, valid⟩ := presented?_eq_some.mp presented
    cases same
    obtain ⟨older, issued⟩ := issuedFor_of_accepted sound linked valid accepted
    refine serves_issueTokensFor ?_ fun _ _ => nofun
    rintro _ ⟨⟩
    refine ⟨session.id, older, issued, ?_⟩
    rw [issuedFor_renew, if_pos rfl, issued]
  obtain ⟨result, served, holds⟩ := accepts.serve
  rw [returned] at served
  exact holds response (Option.some.inj served).symm

omit [DecidableEq Digest] in
/-- A token which was issued for a session and has not expired passes the first check. -/
theorem verify_of_issued (sound : crypto.Sound) (linked : database.Linked crypto)
    {sessionId : SessionId} {token : Token} (issued : token ∈ database.issuedFor sessionId)
    {now : Time} (verifies : crypto.Verifies token now) {session : Session Digest}
    (found : database.sessions.find? sessionId = some session) :
    verifyRefreshToken crypto token now =
      some ⟨session.userId, sessionId, session.deviceId⟩ := by
  obtain ⟨row, member, sameId, user, jti, issuedAt, own, signed⟩ :=
    linked.signed _ (mem_issued_of_issuedFor issued)
  have sameRow : row = session := by
    refine database.sessions.eq_of_key_eq member (database.sessions.mem_of_find? found) ?_
    exact sameId.trans (database.sessions.key_of_find? found).symm
  subst sameRow
  obtain ⟨claims, decoded, early⟩ := verifies
  change token = crypto.sign .refresh _ at signed
  have isClaims : claims = refreshClaims user row jti issuedAt := by
    rw [signed, sound.decode_sign] at decoded
    exact (Option.some.inj decoded).symm
  refine verifyRefreshToken_eq_some.mpr ⟨claims, decoded, early, ?_⟩
  subst isClaims
  refine ⟨rfl, congrArg some sameId, ?_, ?_, own⟩
  · simpa [refreshClaims, truthy] using linked.device row member
  · simpa [refreshClaims, truthy] using jti.property

/-- A refresh with an older token of an active user fails and leaves the session
revoked. -/
theorem serves_reused (sound : crypto.Sound) (linked : database.Linked crypto)
    (distinct : (database.issued.map Prod.snd).Nodup) {sessionId : SessionId}
    {newest : Token} {older : List Token}
    (issued : database.issuedFor sessionId = newest :: older) {token : Token}
    (member : token ∈ older) {now : Time} (verifies : crypto.Verifies token now)
    (active : database.IsActiveSession sessionId) (clientInfo : Option SessionClientInfo)
    (draws : Draws) :
    (refresh crypto (some token) clientInfo draws now).Serves
      (fun result after => (∃ error, result = .error error) ∧ after.IsRevoked sessionId)
      database := by
  obtain ⟨session, user, found, owner, isActive⟩ := active
  have present : token ∈ database.issuedFor sessionId := by
    rw [issued]
    exact List.mem_cons_of_mem _ member
  have valid := verify_of_issued sound linked present verifies found
  have presented := presented?_eq_some.mpr ⟨rfl, valid⟩
  have apart : crypto.sha256 token ≠ session.refreshTokenHash := by
    intro same
    have sameId := database.sessions.key_of_find? found
    rw [key_session] at sameId
    rcases linked.digest session (database.sessions.mem_of_find? found) with
      ⟨latest, others, latestIssued, stored⟩ | ⟨none, _⟩
    · rw [sameId, issued] at latestIssued
      cases latestIssued
      have newestIssued : newest ∈ database.issuedFor sessionId := by
        rw [issued]
        exact List.mem_cons_self
      have signedNewest := linked.signed_of_issued newestIssued
      obtain rfl := sound.sha256_injective (linked.signed_of_issued present) signedNewest
        (same.trans stored)
      -- the newest token would have been issued twice
      have nodup : (database.issuedFor sessionId).Nodup :=
        distinct.sublist (List.filter_sublist.map Prod.snd)
      rw [issued] at nodup
      exact (List.nodup_cons.mp nodup).1 member
    · rw [sameId, issued] at none
      cases none
  have verdict : session.isLive = true →
      database.judge crypto token ⟨session.userId, sessionId, session.deviceId⟩ =
        .reused session := by
    intro live
    simp only [Database.judge, found, live, owner, isActive]
    simp [apart]
  refine serves_refresh ?_ ?_ ?_
  · intro refused
    refine ⟨⟨_, rfl⟩, session, found, ?_⟩
    cases live : session.isLive with
    | false =>
        rfl
    | true =>
        have wrong := refused token _ presented
        rw [verdict live] at wrong
        cases wrong
  · intro other payload reused presentedOther judged
    rw [presented] at presentedOther
    cases presentedOther
    have live : session.isLive = true := by
      by_contra dead
      simp [Database.judge, found, dead] at judged
    rw [verdict live] at judged
    cases judged
    exact ⟨⟨_, rfl⟩, isRevoked_revokeMany found (.inl (by simp))⟩
  · intro other payload accepted user presentedOther judged
    rw [presented] at presentedOther
    cases presentedOther
    exact absurd (judge_eq_accepted judged).2.2.2.2.2.2
      (by
        obtain ⟨foundOther, _⟩ := judge_eq_accepted judged
        rw [found] at foundOther
        cases foundOther
        exact apart)

end Family

/-- After any sequence of calls the tokens of every session are a family. -/
theorem token_family [DecidableEq Digest] (crypto : Crypto Token Digest)
    (sound : crypto.Sound) (calls : List (AuthCall Token))
    (distinct : (((accounts crypto).run (Database.initial Token Digest) calls).issued.map
      Prod.snd).Nodup) :
    TokenFamily crypto ((accounts crypto).run (Database.initial Token Digest) calls) := by
  have linked : ((accounts crypto).run (Database.initial Token Digest) calls).Linked crypto :=
    (run_effects calls).linked initial_linked
  refine ⟨fun _ _ _ _ _ returned => only_newest_of_linked sound linked returned, ?_⟩
  intro sessionId newest older issued token member now verifies active clientInfo draws
  obtain ⟨result, served, ⟨error, failed⟩, revoked⟩ :=
    (serves_reused sound linked distinct issued member verifies active clientInfo draws).serve
  exact ⟨⟨error, by rw [served, failed]⟩, revoked, fun later =>
    refusesSession_of_isRevoked ((run_effects later).isRevoked revoked)⟩

section Sample

/-- Registration, a refresh, a login on another device, and one more refresh. -/
def sampleFamily : List (AuthCall SampleToken) :=
  [.register sampleRegistration none (sampleDraws 0) 1000,
    .refresh (some (sampleToken 0 "device-0" 0 1000)) none (sampleDraws 1) 2000,
    .login sampleLogin (some ⟨some "phone", none, none⟩) (sampleDraws 2) 3000,
    .refresh (some (sampleToken 0 "device-0" 1 2000)) none (sampleDraws 3) 4000]

theorem sampleFamily_family :
    TokenFamily sampleCrypto
      ((accounts sampleCrypto).run (Database.initial SampleToken SampleToken)
        sampleFamily) :=
  token_family sampleCrypto sampleCrypto_sound sampleFamily (by decide +kernel)

/-- Three tokens were issued for the first session. -/
example :
    (((accounts sampleCrypto).run (Database.initial SampleToken SampleToken)
      sampleFamily).issuedFor 0).length = 3 := by
  decide +kernel

end Sample

end Tchuno.Auth
