import Tchuno.Auth.ReauthTokens

/-!
# Reauthentication, one call after another

Without concurrent calls a confirmation leaves a new challenge and no other which is live,
and a challenge is consumed by the call which it lets through.
-/

namespace Tchuno.Auth

open Tchuno.Library Tchuno.Library.Ecma Script

variable {Digest : Type} {database after : ReauthDatabase Digest}

/-! ## Live challenges -/

/-- No challenge was issued later than that. -/
def ReauthDatabase.DatedBy (database : ReauthDatabase Digest) (now : Time) : Prop :=
  ∀ challenge ∈ database.challenges, challenge.createdAt ≤ now

/-- A live challenge is the latest of its user. -/
theorem ReauthDatabase.Sound.le_of_live (sound : database.Sound) {now : Time}
    (dated : database.DatedBy now) {challenge other : ReauthChallenge Digest}
    (member : challenge ∈ database.challenges) (unconsumed : challenge.consumedAt = none)
    (unexpired : now < challenge.expiresAt) (otherMember : other ∈ database.challenges)
    (own : other.userId = challenge.userId) : other.id ≤ challenge.id := by
  by_contra larger
  rcases sound.superseded challenge member other otherMember own.symm (not_le.mp larger) with
    consumed | expired
  · rw [unconsumed] at consumed
    cases consumed
  · have recent := dated other otherMember
    exact absurd (unexpired.trans_le (expired.trans recent)) (lt_irrefl now)

theorem nextId_consumeMany (accept : ReauthChallenge Digest → Bool) (now : Time) :
    (database.consumeMany accept now).challenges.nextId = database.challenges.nextId := rfl

theorem dated_consumeMany {accept : ReauthChallenge Digest → Bool} {now time : Time}
    (dated : database.DatedBy time) : (database.consumeMany accept now).DatedBy time := by
  intro challenge member
  obtain ⟨old, older, rfl⟩ := mem_consumeMany.mp member
  have fixed := fixed_consumedWhere accept now old
  simp only [ReauthChallenge.fixed, Prod.mk.injEq] at fixed
  rw [fixed.2.2.2.2.2]
  exact dated old older

/-! ## Confirmations -/

/-- A token was issued: its digest was free, and the challenge of its user which was live is
consumed. -/
structure Issued (tokenHash : Digest) (input : ConfirmInput) (expiresAt now : Time)
    (database after : ReauthDatabase Digest) : Prop where
  free : ∀ challenge ∈ database.challenges, challenge.tokenHash ≠ tokenHash
  issued : after = (database.consumeLive input.userId now
    (database.liveIds input.userId now)).issue input tokenHash expiresAt now

section Issued

variable {tokenHash : Digest} {input : ConfirmInput} {expiresAt now : Time}

theorem Issued.later (issued : Issued tokenHash input expiresAt now database after) :
    database.Later after := by
  rw [issued.issued]
  exact later_consumeMany.trans later_issue

theorem Issued.sound (issued : Issued tokenHash input expiresAt now database after)
    (sound : database.Sound) : after.Sound := by
  rw [issued.issued]
  refine sound_issue (sound_consumeMany sound) ?_ (none_live_of_found ?_)
  · intro challenge member
    obtain ⟨old, older, rfl⟩ := mem_consumeMany.mp member
    have fixed := fixed_consumedWhere (ReauthChallenge.isFound input.userId now
      (database.liveIds input.userId now)) now old
    simp only [ReauthChallenge.fixed, Prod.mk.injEq] at fixed
    rw [fixed.2.2.1]
    exact issued.free old older
  · intro challenge member live
    exact List.mem_map_of_mem (List.mem_filter.mpr ⟨member, live⟩)

theorem Issued.dated (issued : Issued tokenHash input expiresAt now database after)
    (dated : database.DatedBy now) : after.DatedBy now := by
  rw [issued.issued]
  intro challenge member
  rcases mem_issue.mp member with rfl | older
  · exact le_refl now
  · exact dated_consumeMany dated challenge older

/-- The challenge of the token is new, and no other. -/
theorem Issued.find?_challenge (issued : Issued tokenHash input expiresAt now database after)
    (challengeId : ChallengeId) :
    after.challenges.find? challengeId =
      if challengeId = database.challenges.nextId then
        some (issuedChallenge input tokenHash expiresAt now challengeId)
      else
        (database.challenges.find? challengeId).map (consumedWhere (ReauthChallenge.isFound
          input.userId now (database.liveIds input.userId now)) now) := by
  rw [issued.issued]
  refine (Table.find?_insert _ (issuedChallenge input tokenHash expiresAt now) (fun _ => rfl)
    challengeId).trans ?_
  rw [← find?_consumeMany, consumeLive_eq, nextId_consumeMany]
  split_ifs with newest
  · rw [newest]
  · rfl

end Issued

variable [DecidableEq Digest] {crypto : ReauthCrypto Digest}

/-- The user is active, and the password is its own. -/
def ReauthDatabase.Recognises (database : ReauthDatabase Digest) (crypto : ReauthCrypto Digest)
    (input : ConfirmInput) : Prop :=
  ∃ user, database.users.find? input.userId = some user ∧ user.isActive = true ∧
    crypto.comparePassword input.password user.passwordHash = true

/-- What a confirmation returns, and what it leaves. -/
def ConfirmEnds (crypto : ReauthCrypto Digest) (input : ConfirmInput) (reauthToken : String)
    (ttlMinutes : Option ℚ) (now : Time) (database : ReauthDatabase Digest) :
    Except AuthError ReauthToken → ReauthDatabase Digest → Prop
  | .ok token, after =>
      token = ⟨reauthToken, now + reauthLifetime ttlMinutes⟩ ∧
        Issued (crypto.sha256 reauthToken) input token.expiresAt now database after
  | .error _, after => after = database ∧ (database.Recognises crypto input →
      ∃ challenge ∈ database.challenges, challenge.tokenHash = crypto.sha256 reauthToken)

theorem serves_confirmByPassword (input : ConfirmInput) (reauthToken : String)
    (ttlMinutes : Option ℚ) (now : Time) :
    (confirmByPassword crypto input reauthToken ttlMinutes now).Serves
      (ConfirmEnds crypto input reauthToken ttlMinutes now database) database := by
  refine serves_consult_bind (fun _ _ => ?_) fun error refused => ⟨rfl, ?_⟩
  · refine serves_bind (serves_transaction ?_)
    rw [consumeLiveChallenges, Script.bind_assoc]
    refine drafts_select_bind ?_
    rw [Script.bind_assoc]
    refine drafts_lockAll_bind (drafts_write_bind (drafts_lockAll_bind ?_))
    refine drafts_consult_bind (fun _ unused => ?_) fun _ used => ⟨rfl, fun _ => ?_⟩
    · refine drafts_write (serves_pure ⟨rfl, ?_, rfl⟩)
      split_ifs at unused with none
      exact free_of_consumeMany none
    · split_ifs at used with some
      obtain ⟨challenge, found⟩ := Option.ne_none_iff_exists'.mp some
      obtain ⟨member, taken⟩ := Table.mem_of_findFirst? _ found
      obtain ⟨old, older, rfl⟩ := mem_consumeMany.mp member
      have fixed := fixed_consumedWhere (ReauthChallenge.isFound input.userId now
        (database.liveIds input.userId now)) now old
      simp only [ReauthChallenge.fixed, Prod.mk.injEq] at fixed
      exact ⟨old, older, fixed.2.2.1.symm.trans (of_decide_eq_true taken)⟩
  · rintro ⟨user, found, active, matched⟩
    rw [found] at refused
    dsimp only at refused
    rw [active, matched] at refused
    cases refused

/-! ## Consumption -/

/-- What a consumption returns, and what it leaves. -/
def ConsumeEnds (crypto : ReauthCrypto Digest) (input : ConsumeInput) (now : Time)
    (database : ReauthDatabase Digest) :
    Except AuthError ConsumeResult → ReauthDatabase Digest → Prop
  | .ok ⟨true, _⟩, after => trim input.token ≠ "" ∧ ∃ challenge,
      database.judge crypto input now = .accepted challenge ∧
        after = database.redeem challenge.id input now
  | .ok ⟨false, _⟩, after =>
      (trim input.token = "" ∨ ∀ challenge, database.judge crypto input now ≠ .accepted challenge) ∧
        (after = database ∨ ∃ accept, after = database.consumeMany accept now)
  | .error _, _ => False

theorem serves_consumeChallenge (input : ConsumeInput) (now : Time) :
    (consumeChallenge crypto input now).Serves (ConsumeEnds crypto input now database)
      database := by
  rcases eq_or_ne (trim input.token) "" with missing | present
  · rw [consumeChallenge, if_pos missing]
    exact serves_pure ⟨.inl missing, .inl rfl⟩
  · rw [consumeChallenge, if_neg present]
    refine serves_select_bind ?_
    cases verdict : database.judge crypto input now with
    | refused reason =>
        refine serves_pure ⟨.inr fun challenge accepted => ?_, .inl rfl⟩
        rw [verdict] at accepted
        cases accepted
    | expired challenge =>
        refine serves_bind (serves_transaction (drafts_lock_bind (drafts_write ?_)))
        refine serves_pure ⟨.inr fun other accepted => ?_,
          .inr ⟨fun other => Keyed.key other == challenge.id, rfl⟩⟩
        rw [verdict] at accepted
        cases accepted
    | accepted challenge =>
        refine serves_bind (serves_transaction (drafts_lock_bind (drafts_write ?_)))
        exact serves_pure ⟨present, challenge, verdict, rfl⟩

/-- Why a challenge was accepted. -/
structure Accepts (crypto : ReauthCrypto Digest) (input : ConsumeInput) (now : Time)
    (database : ReauthDatabase Digest) (challenge : ReauthChallenge Digest) : Prop where
  stored : database.challenges.find? challenge.id = some challenge
  user : challenge.userId = input.userId
  digest : challenge.tokenHash = crypto.sha256 (trim input.token)
  unconsumed : challenge.consumedAt = none
  unexpired : now < challenge.expiresAt
  purpose : purposesConflict input.purpose challenge.purpose = false

theorem accepts_of_judge {input : ConsumeInput} {now : Time}
    {challenge : ReauthChallenge Digest}
    (verdict : database.judge crypto input now = .accepted challenge) :
    Accepts crypto input now database challenge := by
  obtain ⟨stored, user, digest, unexpired, purpose⟩ := judgement_eq_accepted verdict
  refine ⟨stored, user, digest, ?_, unexpired, purpose⟩
  unfold ReauthDatabase.judge at verdict
  split at verdict
  · cases verdict
  · split_ifs at verdict with consumed
    cases verdict
    simpa using consumed

omit [DecidableEq Digest] in
theorem Accepts.sound {input : ConsumeInput} {now : Time} {challenge : ReauthChallenge Digest}
    (accepts : Accepts crypto input now database challenge) (sound : database.Sound)
    (dated : database.DatedBy now) : (database.redeem challenge.id input now).Sound :=
  sound_redeem sound accepts.stored accepts.unconsumed accepts.user accepts.unexpired
    accepts.purpose fun other member _ => dated other member

end Tchuno.Auth
