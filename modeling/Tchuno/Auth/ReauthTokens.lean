import Tchuno.Auth.Reauth
import Tchuno.Library.Serial

/-!
# Reauthentication tokens under concurrent calls

A token authorises one action as long as its challenge is still unconsumed when it is
locked to be marked, no later challenge of the user is stored by then, and no two
confirmations of one user overlap.
-/

namespace Tchuno.Auth

open Tchuno.Library Tchuno.Library.Ecma

variable {Digest : Type}

/-! ## Challenges over time -/

/-- What is never written again. -/
def ReauthChallenge.fixed (challenge : ReauthChallenge Digest) :
    ChallengeId × UserId × Digest × Time × Option String × Time :=
  (challenge.id, challenge.userId, challenge.tokenHash, challenge.expiresAt, challenge.purpose,
    challenge.createdAt)

/-- Challenges stay, and those which are consumed stay consumed. -/
def ReauthDatabase.Later (before after : ReauthDatabase Digest) : Prop :=
  ∀ challengeId challenge, before.challenges.find? challengeId = some challenge →
    ∃ present, after.challenges.find? challengeId = some present ∧
      present.fixed = challenge.fixed ∧
        (challenge.consumedAt.isSome → present.consumedAt.isSome)

/-- The challenge was accepted in a call with these inputs. -/
structure Redemption.Rightful (redemption : Redemption) (challenge : ReauthChallenge Digest) :
    Prop where
  user : redemption.userId = challenge.userId
  unexpired : redemption.now < challenge.expiresAt
  purpose : purposesConflict redemption.purpose challenge.purpose = false

/-- A challenge no later than another of its user is consumed, or had expired when the
other was issued; and every redeemed challenge was redeemed once, rightfully, before any
later one. -/
structure ReauthDatabase.Sound (database : ReauthDatabase Digest) : Prop where
  hashes : ∀ first ∈ database.challenges, ∀ second ∈ database.challenges,
    first.tokenHash = second.tokenHash → first = second
  superseded : ∀ first ∈ database.challenges, ∀ second ∈ database.challenges,
    first.userId = second.userId → first.id < second.id →
      first.consumedAt.isSome ∨ first.expiresAt ≤ second.createdAt
  once : (database.redemptions.map Redemption.challengeId).Nodup
  redeemed : ∀ redemption ∈ database.redemptions,
    redemption.issued ≤ database.challenges.nextId ∧
      ∃ challenge, database.challenges.find? redemption.challengeId = some challenge ∧
        challenge.consumedAt.isSome ∧ redemption.Rightful challenge ∧
          ∀ later ∈ database.challenges, later.userId = challenge.userId →
            challenge.id < later.id → redemption.issued ≤ later.id

section Later

theorem ReauthDatabase.Later.refl (database : ReauthDatabase Digest) :
    database.Later database :=
  fun _ challenge found => ⟨challenge, found, rfl, id⟩

theorem ReauthDatabase.Later.trans {first second third : ReauthDatabase Digest}
    (early : first.Later second) (late : second.Later third) : first.Later third := by
  intro challengeId challenge found
  obtain ⟨between, foundBetween, sameEarly, consumedEarly⟩ := early challengeId challenge found
  obtain ⟨present, foundPresent, sameLate, consumedLate⟩ := late challengeId between foundBetween
  exact ⟨present, foundPresent, sameLate.trans sameEarly, fun consumed =>
    consumedLate (consumedEarly consumed)⟩

/-- A live challenge was live before. -/
theorem ReauthDatabase.Later.live_before {before after : ReauthDatabase Digest}
    (later : before.Later after) {userId : UserId} {now : Time}
    {challenge : ReauthChallenge Digest} (present : challenge ∈ after.challenges)
    (live : challenge.isLive userId now = true)
    (known : (before.challenges.find? challenge.id).isSome) :
    ∃ old, before.challenges.find? challenge.id = some old ∧ old.isLive userId now = true := by
  obtain ⟨old, found⟩ := Option.isSome_iff_exists.mp known
  obtain ⟨same, foundSame, fixed, consumed⟩ := later challenge.id old found
  have isSame : same = challenge :=
    after.challenges.eq_of_key_eq (after.challenges.mem_of_find? foundSame) present
      (after.challenges.key_of_find? foundSame)
  subst isSame
  simp only [ReauthChallenge.fixed, Prod.mk.injEq] at fixed
  simp only [ReauthChallenge.isLive, Bool.and_eq_true, decide_eq_true_eq] at live ⊢
  obtain ⟨⟨own, unconsumed⟩, unexpired⟩ := live
  refine ⟨old, found, ⟨fixed.2.1.symm.trans own, ?_⟩, fixed.2.2.2.1 ▸ unexpired⟩
  cases stamp : old.consumedAt with
  | none =>
      rfl
  | some time =>
      have isConsumed := consumed (by rw [stamp]; rfl)
      rw [Option.isNone_iff_eq_none.mp unconsumed] at isConsumed
      cases isConsumed

end Later

/-! ## Challenges which are consumed -/

section Consumed

/-- The challenge, consumed if it is chosen. -/
def consumedWhere (accept : ReauthChallenge Digest → Bool) (now : Time)
    (challenge : ReauthChallenge Digest) : ReauthChallenge Digest :=
  if accept challenge then consumedChallenge now challenge else challenge

def ReauthDatabase.consumeMany (database : ReauthDatabase Digest)
    (accept : ReauthChallenge Digest → Bool) (now : Time) : ReauthDatabase Digest :=
  { database with
    challenges := database.challenges.updateMany accept (consumedChallenge now)
      (consumedChallenge_key now) }

variable {before : ReauthDatabase Digest} {accept : ReauthChallenge Digest → Bool} {now : Time}

theorem mem_consumeMany {challenge : ReauthChallenge Digest} :
    challenge ∈ (before.consumeMany accept now).challenges ↔
      ∃ old ∈ before.challenges, challenge = consumedWhere accept now old :=
  Table.mem_updateMany _ _ (consumedChallenge now) fun _ => rfl

theorem find?_consumeMany (challengeId : ChallengeId) :
    (before.consumeMany accept now).challenges.find? challengeId =
      (before.challenges.find? challengeId).map (consumedWhere accept now) :=
  Table.find?_updateMany _ _ (consumedChallenge now) (fun _ => rfl) _

variable (accept now) in
@[simp]
theorem fixed_consumedWhere (challenge : ReauthChallenge Digest) :
    (consumedWhere accept now challenge).fixed = challenge.fixed := by
  unfold consumedWhere
  split_ifs <;> rfl

theorem isSome_consumedWhere {challenge : ReauthChallenge Digest}
    (consumed : challenge.consumedAt.isSome) :
    (consumedWhere accept now challenge).consumedAt.isSome := by
  unfold consumedWhere
  split_ifs
  · rfl
  · exact consumed

theorem later_consumeMany : before.Later (before.consumeMany accept now) := by
  intro challengeId challenge found
  refine ⟨consumedWhere accept now challenge, ?_, fixed_consumedWhere accept now challenge,
    isSome_consumedWhere⟩
  rw [find?_consumeMany, found, Option.map_some]

theorem Redemption.Rightful.of_fixed {redemption : Redemption}
    {challenge other : ReauthChallenge Digest} (same : other.fixed = challenge.fixed)
    (rightful : redemption.Rightful challenge) : redemption.Rightful other := by
  simp only [ReauthChallenge.fixed, Prod.mk.injEq] at same
  obtain ⟨_, sameUser, _, sameExpiry, samePurpose, _⟩ := same
  exact ⟨rightful.user.trans sameUser.symm, sameExpiry ▸ rightful.unexpired,
    samePurpose ▸ rightful.purpose⟩

theorem sound_consumeMany (sound : before.Sound) : (before.consumeMany accept now).Sound where
  hashes := by
    intro first firstMember second secondMember same
    obtain ⟨oldFirst, firstOld, rfl⟩ := mem_consumeMany.mp firstMember
    obtain ⟨oldSecond, secondOld, rfl⟩ := mem_consumeMany.mp secondMember
    have firstFixed := fixed_consumedWhere accept now oldFirst
    have secondFixed := fixed_consumedWhere accept now oldSecond
    simp only [ReauthChallenge.fixed, Prod.mk.injEq] at firstFixed secondFixed
    rw [firstFixed.2.2.1, secondFixed.2.2.1] at same
    rw [sound.hashes oldFirst firstOld oldSecond secondOld same]
  superseded := by
    intro first firstMember second secondMember own earlier
    obtain ⟨oldFirst, firstOld, rfl⟩ := mem_consumeMany.mp firstMember
    obtain ⟨oldSecond, secondOld, rfl⟩ := mem_consumeMany.mp secondMember
    have firstFixed := fixed_consumedWhere accept now oldFirst
    have secondFixed := fixed_consumedWhere accept now oldSecond
    simp only [ReauthChallenge.fixed, Prod.mk.injEq] at firstFixed secondFixed
    rw [firstFixed.1, secondFixed.1] at earlier
    rw [firstFixed.2.1, secondFixed.2.1] at own
    rw [firstFixed.2.2.2.1, secondFixed.2.2.2.2.2]
    exact (sound.superseded oldFirst firstOld oldSecond secondOld own earlier).imp_left
      isSome_consumedWhere
  once := sound.once
  redeemed := by
    intro redemption member
    obtain ⟨bounded, challenge, found, consumed, rightful, first⟩ :=
      sound.redeemed redemption member
    obtain ⟨present, foundPresent, same, stays⟩ :=
      @later_consumeMany _ before accept now _ challenge found
    refine ⟨bounded, present, foundPresent, stays consumed, rightful.of_fixed same, ?_⟩
    intro later laterMember own larger
    obtain ⟨old, oldMember, rfl⟩ := mem_consumeMany.mp laterMember
    have laterFixed := fixed_consumedWhere accept now old
    simp only [ReauthChallenge.fixed, Prod.mk.injEq] at laterFixed same
    rw [laterFixed.2.1, same.2.1] at own
    rw [laterFixed.1, same.1] at larger
    rw [laterFixed.1]
    exact first old oldMember own larger

/-- A digest which is free then was free before. -/
theorem free_of_consumeMany [DecidableEq Digest] {tokenHash : Digest}
    (unused : (before.consumeMany accept now).challenges.findFirst?
      (fun challenge => challenge.tokenHash = tokenHash) = none) :
    ∀ challenge ∈ before.challenges, challenge.tokenHash ≠ tokenHash := by
  intro challenge member same
  have written : consumedWhere accept now challenge ∈
      (before.consumeMany accept now).challenges := mem_consumeMany.mpr ⟨challenge, member, rfl⟩
  have fixed := fixed_consumedWhere accept now challenge
  simp only [ReauthChallenge.fixed, Prod.mk.injEq] at fixed
  refine (Table.findFirst?_eq_none_iff _).mp unused _ written ?_
  exact decide_eq_true (fixed.2.2.1.trans same)

theorem consumeLive_eq (userId : UserId) (found : List ChallengeId) :
    before.consumeLive userId now found =
      before.consumeMany (ReauthChallenge.isFound userId now found) now := rfl

/-- After the live challenges were consumed none is left, if all of them were found. -/
theorem none_live_of_found {userId : UserId} {found : List ChallengeId}
    (complete : ∀ challenge ∈ before.challenges,
      challenge.isLive userId now = true → challenge.id ∈ found) :
    ∀ challenge ∈ (before.consumeLive userId now found).challenges,
      challenge.userId = userId → challenge.consumedAt.isSome ∨ challenge.expiresAt ≤ now := by
  intro challenge member own
  obtain ⟨old, oldMember, rfl⟩ := mem_consumeMany.mp member
  by_cases live : old.isLive userId now = true
  · have chosen : old.isFound userId now found = true := by
      rw [ReauthChallenge.isFound, live, List.contains_iff_mem.mpr (complete old oldMember live)]
      rfl
    unfold consumedWhere
    rw [if_pos chosen]
    exact .inl rfl
  · have spared : ¬ old.isFound userId now found = true := by
      simp [ReauthChallenge.isFound, live]
    unfold consumedWhere at own ⊢
    rw [if_neg spared] at own ⊢
    by_contra stillLive
    obtain ⟨unconsumed, unexpired⟩ := not_or.mp stillLive
    refine live ?_
    simp only [ReauthChallenge.isLive, Bool.and_eq_true, decide_eq_true_eq]
    exact ⟨⟨own, by simpa using unconsumed⟩, not_le.mp unexpired⟩

end Consumed

/-! ## Challenges which are issued and redeemed -/

section Issued

variable {database : ReauthDatabase Digest} {input : ConfirmInput} {tokenHash : Digest}
  {expiresAt now : Time}

theorem mem_issue {challenge : ReauthChallenge Digest} :
    challenge ∈ (database.issue input tokenHash expiresAt now).challenges ↔
      challenge = issuedChallenge input tokenHash expiresAt now database.challenges.nextId ∨
        challenge ∈ database.challenges :=
  Table.mem_insert _ (issuedChallenge input tokenHash expiresAt now) fun _ => rfl

theorem later_issue : database.Later (database.issue input tokenHash expiresAt now) :=
  fun _ challenge found => ⟨challenge, database.challenges.find?_insert_of_some
    (issuedChallenge input tokenHash expiresAt now) (fun _ => rfl) found, rfl, id⟩

/-- A new token takes the place of all those of its user which were live. -/
theorem sound_issue (sound : database.Sound)
    (free : ∀ challenge ∈ database.challenges, challenge.tokenHash ≠ tokenHash)
    (alone : ∀ challenge ∈ database.challenges, challenge.userId = input.userId →
      challenge.consumedAt.isSome ∨ challenge.expiresAt ≤ now) :
    (database.issue input tokenHash expiresAt now).Sound where
  hashes := by
    intro first firstMember second secondMember same
    rcases mem_issue.mp firstMember with rfl | firstOld
    · rcases mem_issue.mp secondMember with rfl | secondOld
      · rfl
      · exact absurd same.symm (free second secondOld)
    · rcases mem_issue.mp secondMember with rfl | secondOld
      · exact absurd same (free first firstOld)
      · exact sound.hashes first firstOld second secondOld same
  superseded := by
    intro first firstMember second secondMember own earlier
    rcases mem_issue.mp firstMember with rfl | firstOld
    · rcases mem_issue.mp secondMember with rfl | secondOld
      · exact absurd earlier (lt_irrefl _)
      · exact absurd (database.challenges.key_lt_nextId secondOld) (Nat.lt_asymm earlier)
    · rcases mem_issue.mp secondMember with rfl | secondOld
      · exact alone first firstOld own
      · exact sound.superseded first firstOld second secondOld own earlier
  once := sound.once
  redeemed := by
    intro redemption member
    obtain ⟨bounded, challenge, found, consumed, rightful, first⟩ :=
      sound.redeemed redemption member
    obtain ⟨present, foundPresent, same, stays⟩ :=
      @later_issue _ database input tokenHash expiresAt now _ challenge found
    have isSame : present = challenge := by
      have foundSame := database.challenges.find?_insert_of_some
        (issuedChallenge input tokenHash expiresAt now) (fun _ => rfl) found
      exact Option.some.inj (foundPresent.symm.trans foundSame)
    subst isSame
    refine ⟨Nat.le_succ_of_le bounded, present, foundPresent, consumed, rightful, ?_⟩
    intro later laterMember own larger
    rcases mem_issue.mp laterMember with rfl | laterOld
    · exact bounded
    · exact first later laterOld own larger

end Issued

section Redeemed

variable {database : ReauthDatabase Digest} {input : ConsumeInput} {now : Time}
  {challenge : ReauthChallenge Digest}

theorem later_redeem (challengeId : ChallengeId) :
    database.Later (database.redeem challengeId input now) :=
  @later_consumeMany _ database (fun challenge => Keyed.key challenge == challengeId) now

theorem redeemed_find? (found : database.challenges.find? challenge.id = some challenge) :
    (database.redeem challenge.id input now).challenges.find? challenge.id =
      some (consumedChallenge now challenge) := by
  have written := @Table.find?_update _ _ database.challenges (consumedChallenge now)
    (fun _ => rfl) challenge.id challenge.id
  rw [if_pos rfl, found, Option.map_some] at written
  exact written

/-- A challenge which is not consumed yet may be redeemed, if no later one is stored. -/
theorem sound_redeem (sound : database.Sound)
    (found : database.challenges.find? challenge.id = some challenge)
    (unconsumed : challenge.consumedAt = none) (own : challenge.userId = input.userId)
    (unexpired : now < challenge.expiresAt)
    (purpose : purposesConflict input.purpose challenge.purpose = false)
    (newest : ∀ other ∈ database.challenges, other.userId = input.userId →
      other.createdAt ≤ now) :
    (database.redeem challenge.id input now).Sound := by
  have consumed := @sound_consumeMany _ database
    (fun other => Keyed.key other == challenge.id) now sound
  have unredeemed : challenge.id ∉ database.redemptions.map Redemption.challengeId := by
    intro listed
    obtain ⟨redemption, member, same⟩ := List.mem_map.mp listed
    obtain ⟨_, other, foundOther, isConsumed, _⟩ := sound.redeemed redemption member
    rw [same, found] at foundOther
    cases foundOther
    rw [unconsumed] at isConsumed
    cases isConsumed
  have noLater : ∀ later ∈ database.challenges, later.userId = challenge.userId →
      ¬ challenge.id < later.id := by
    intro later member sameUser larger
    rcases sound.superseded challenge (database.challenges.mem_of_find? found) later member
      sameUser.symm larger with isConsumed | expired
    · rw [unconsumed] at isConsumed
      cases isConsumed
    · have recent := newest later member (sameUser.trans own)
      exact absurd (lt_of_lt_of_le unexpired (expired.trans recent)) (lt_irrefl now)
  refine ⟨consumed.hashes, consumed.superseded, List.nodup_cons.mpr ⟨unredeemed, sound.once⟩, ?_⟩
  intro redemption member
  rcases List.mem_cons.mp member with rfl | older
  · refine ⟨le_refl _, consumedChallenge now challenge, redeemed_find? found, rfl,
      ⟨own.symm, unexpired, purpose⟩, ?_⟩
    intro later laterMember sameUser larger
    obtain ⟨old, oldMember, rfl⟩ := mem_consumeMany.mp laterMember
    have laterFixed := fixed_consumedWhere (fun other => Keyed.key other == challenge.id) now old
    simp only [ReauthChallenge.fixed, Prod.mk.injEq] at laterFixed
    rw [laterFixed.2.1] at sameUser
    rw [laterFixed.1] at larger
    exact absurd larger (noLater old oldMember sameUser)
  · exact consumed.redeemed redemption older

end Redeemed

/-! ## The condition -/

variable [DecidableEq Digest]

/-- The challenge the call is about to redeem, by what it has seen last. -/
def ReauthCall.accepts (call : ReauthCall) (crypto : ReauthCrypto Digest)
    (seen : Option (ReauthDatabase Digest)) : Option ChallengeId :=
  match call, seen with
  | .consume input now, some database =>
      match database.judge crypto input now with
      | .accepted challenge => some challenge.id
      | _ => none
  | _, _ => none

/-- Every live challenge of the user who confirms was there when the call last looked. -/
def ReauthCall.Alone (call : ReauthCall) (seen : Option (ReauthDatabase Digest))
    (database : ReauthDatabase Digest) : Prop :=
  match call with
  | .confirm input _ _ now =>
      ∀ before ∈ seen, ∀ challenge ∈ database.challenges,
        challenge.isLive input.userId now = true →
          (before.challenges.find? challenge.id).isSome
  | .consume _ _ => True

/-- No challenge of the user whose token is redeemed was issued after the call began. -/
def ReauthCall.Timely (call : ReauthCall) (crypto : ReauthCrypto Digest)
    (seen : Option (ReauthDatabase Digest)) (database : ReauthDatabase Digest) : Prop :=
  match call with
  | .confirm _ _ _ _ => True
  | .consume input now =>
      (call.accepts crypto seen).isSome →
        ∀ challenge ∈ database.challenges, challenge.userId = input.userId →
          challenge.createdAt ≤ now

/-- A challenge is not consumed when a call locks it to redeem it, and is the newest of its
user when the call commits; confirmations of one user do not overlap. -/
def ReauthCall.Undisturbed (call : ReauthCall) (crypto : ReauthCrypto Digest)
    (seen : Option (ReauthDatabase Digest)) :
    Statement (ReauthTarget Digest) → ReauthDatabase Digest → Prop
  | .lock (.challenge challengeId), database =>
      call.accepts crypto seen = some challengeId →
        ∀ challenge ∈ database.challenges.find? challengeId, challenge.consumedAt = none
  | .look (.tokenHash _), database => call.Alone seen database
  | .commit, database => call.Alone seen database ∧ call.Timely crypto seen database
  | _, _ => True

instance ReauthCall.decidableAlone (call : ReauthCall) (seen : Option (ReauthDatabase Digest))
    (database : ReauthDatabase Digest) : Decidable (call.Alone seen database) := by
  cases call <;> unfold ReauthCall.Alone <;> infer_instance

instance ReauthCall.decidableTimely (call : ReauthCall) (crypto : ReauthCrypto Digest)
    (seen : Option (ReauthDatabase Digest)) (database : ReauthDatabase Digest) :
    Decidable (call.Timely crypto seen database) := by
  cases call <;> unfold ReauthCall.Timely <;> infer_instance

instance ReauthCall.decidableUndisturbed (call : ReauthCall) (crypto : ReauthCrypto Digest)
    (seen : Option (ReauthDatabase Digest)) (statement : Statement (ReauthTarget Digest))
    (database : ReauthDatabase Digest) :
    Decidable (call.Undisturbed crypto seen statement database) := by
  rcases statement with row | row | _ | _ | _
  case look => cases row <;> unfold ReauthCall.Undisturbed <;> infer_instance
  case lock => cases row <;> unfold ReauthCall.Undisturbed <;> infer_instance
  all_goals unfold ReauthCall.Undisturbed; infer_instance

/-! ## The discipline -/

/-- The row of a challenge is changed only under its lock, and a digest is stored only
under its own; the calls which have redeemed a challenge are remembered. -/
def reauthDiscipline {ι : Type} (crypto : ReauthCrypto Digest) (calls : ι → ReauthCall) :
    Discipline (ReauthDatabase Digest × List (ι × ChallengeId)) (ReauthDatabase Digest)
      (ReauthTarget Digest) ι where
  data := Prod.fst
  invariant := fun state => state.1.Sound ∧
    state.2.map Prod.snd = state.1.redemptions.map Redemption.challengeId
  same := fun row before after =>
    match row with
    | .challenge challengeId => ∀ challenge,
        before.1.challenges.find? challengeId = some challenge →
          after.1.challenges.find? challengeId = some challenge
    | .tokenHash tokenHash =>
        (∀ challenge ∈ before.1.challenges, challenge.tokenHash ≠ tokenHash) →
          ∀ challenge ∈ after.1.challenges, challenge.tokenHash ≠ tokenHash
    | _ => True
  grows := fun before after => before.1.Later after.1 ∧ before.2 ⊆ after.2 ∧
    before.1.redemptions ⊆ after.1.redemptions
  allowed := fun client => (calls client).Undisturbed crypto

section Calls

variable {ι : Type} {crypto : ReauthCrypto Digest} {calls : ι → ReauthCall} {client : ι}

@[simp]
theorem reauthDiscipline_data (state : ReauthDatabase Digest × List (ι × ChallengeId)) :
    (reauthDiscipline crypto calls).data state = state.1 := rfl

/-- The call has redeemed the challenge of its token. -/
def HasRedeemed (crypto : ReauthCrypto Digest) (client : ι) (input : ConsumeInput)
    (now : Time) (state : ReauthDatabase Digest × List (ι × ChallengeId)) : Prop :=
  ∃ redemption ∈ state.1.redemptions, (client, redemption.challengeId) ∈ state.2 ∧
    redemption.userId = input.userId ∧ redemption.purpose = input.purpose ∧
      redemption.now = now ∧
        ∃ challenge, state.1.challenges.find? redemption.challengeId = some challenge ∧
          challenge.tokenHash = crypto.sha256 (trim input.token)

/-- A call which returns `ok` has redeemed the challenge of its token. -/
def RedeemsToReturn (crypto : ReauthCrypto Digest) (calls : ι → ReauthCall) (client : ι)
    (result : Except AuthError ReauthReply) (_ : Option (ReauthDatabase Digest))
    (state : ReauthDatabase Digest × List (ι × ChallengeId)) : Prop :=
  ∀ input now, calls client = .consume input now →
    result = .ok (.consumed ⟨true, none⟩) → HasRedeemed crypto client input now state

theorem hasRedeemed_stable {held : Set (ReauthTarget Digest)} {input : ConsumeInput}
    {now : Time} :
    (reauthDiscipline crypto calls).Stable held (HasRedeemed crypto client input now) := by
  rintro before after _ _ ⟨later, remembered, recorded⟩
    ⟨redemption, member, listed, user, purpose, time, challenge, found, digest⟩
  obtain ⟨present, foundPresent, same, _⟩ := later _ challenge found
  simp only [ReauthChallenge.fixed, Prod.mk.injEq] at same
  exact ⟨redemption, recorded member, remembered listed, user, purpose, time, present,
    foundPresent, same.2.2.1.trans digest⟩

/-- A later state of the database; it stays one. -/
theorem later_stable {held : Set (ReauthTarget Digest)} (seen : ReauthDatabase Digest) :
    (reauthDiscipline crypto calls).Stable held fun state => seen.Later state.1 :=
  fun _ _ _ _ grows later => later.trans grows.1

/-- The digest is free while its lock is held. -/
theorem free_stable {held : Set (ReauthTarget Digest)} {tokenHash : Digest}
    (locked : ReauthTarget.tokenHash tokenHash ∈ held) :
    (reauthDiscipline crypto calls).Stable held fun state =>
      ∀ challenge ∈ state.1.challenges, challenge.tokenHash ≠ tokenHash :=
  fun _ _ _ same _ free => same _ locked free

/-- A row stays as it is while its lock is held. -/
theorem row_stable {held : Set (ReauthTarget Digest)} {challenge : ReauthChallenge Digest}
    (locked : ReauthTarget.challenge challenge.id ∈ held) :
    (reauthDiscipline crypto calls).Stable held fun state =>
      state.1.challenges.find? challenge.id = some challenge :=
  fun _ _ _ same _ found => same _ locked challenge found

/-- Nothing is pending. -/
theorem reauth_tolerates : (reauthDiscipline crypto calls).Tolerates (· = ·) where
  refl := fun _ => rfl
  trans := fun early late => early.trans late
  keeps := by
    rintro before _ rfl invariant
    refine ⟨before, rfl, invariant, ⟨ReauthDatabase.Later.refl _, fun _ listed => listed,
      fun _ listed => listed⟩, fun row _ => ?_⟩
    cases row with
    | challenge challengeId => exact fun _ found => found
    | tokenHash tokenHash => exact fun free => free
    | user userId => trivial
    | challenges => trivial

/-! ### Confirmations -/

theorem keeps_confirmed {held : Set (ReauthTarget Digest)}
    {state : ReauthDatabase Digest × List (ι × ChallengeId)} {input : ConfirmInput}
    {tokenHash : Digest} {expiresAt now : Time} {found : List ChallengeId}
    (invariant : (reauthDiscipline crypto calls).invariant state)
    (locked : ∀ challengeId ∈ found, ReauthTarget.challenge challengeId ∈ held)
    (lockedHash : ReauthTarget.tokenHash tokenHash ∈ held)
    (free : ∀ challenge ∈ state.1.challenges, challenge.tokenHash ≠ tokenHash)
    (complete : ∀ challenge ∈ state.1.challenges,
      challenge.isLive input.userId now = true → challenge.id ∈ found) :
    (reauthDiscipline crypto calls).Keeps held state
      ((state.1.consumeLive input.userId now found).issue input tokenHash expiresAt now,
        state.2) := by
  obtain ⟨sound, remembered⟩ := invariant
  have stillFree : ∀ challenge ∈ (state.1.consumeLive input.userId now found).challenges,
      challenge.tokenHash ≠ tokenHash := by
    intro challenge member
    obtain ⟨old, oldMember, rfl⟩ := mem_consumeMany.mp member
    have fixed := fixed_consumedWhere (ReauthChallenge.isFound input.userId now found) now old
    simp only [ReauthChallenge.fixed, Prod.mk.injEq] at fixed
    rw [fixed.2.2.1]
    exact free old oldMember
  refine ⟨⟨?_, remembered⟩, ⟨?_, fun _ listed => listed, fun _ listed => listed⟩, ?_⟩
  · exact sound_issue (sound_consumeMany sound) stillFree (none_live_of_found complete)
  · exact later_consumeMany.trans later_issue
  · intro row unlocked
    cases row with
    | challenge challengeId =>
        intro challenge stored
        have spared : challengeId ∉ found := fun listed => unlocked (locked _ listed)
        have sameId : challenge.id = challengeId := state.1.challenges.key_of_find? stored
        have kept : consumedWhere (ReauthChallenge.isFound input.userId now found) now
            challenge = challenge := by
          simp [consumedWhere, ReauthChallenge.isFound, sameId, spared]
        have consumed : (state.1.consumeLive input.userId now found).challenges.find?
            challengeId = some challenge := by
          rw [consumeLive_eq, find?_consumeMany, stored, Option.map_some, kept]
        exact Table.find?_insert_of_some _ (issuedChallenge input tokenHash expiresAt now)
          (fun _ => rfl) consumed
    | tokenHash other =>
        intro unused challenge member
        rcases mem_issue.mp member with rfl | old
        · intro same
          exact unlocked (same ▸ lockedHash)
        · obtain ⟨older, olderMember, rfl⟩ := mem_consumeMany.mp old
          have fixed := fixed_consumedWhere
            (ReauthChallenge.isFound input.userId now found) now older
          simp only [ReauthChallenge.fixed, Prod.mk.injEq] at fixed
          rw [fixed.2.2.1]
          exact unused older olderMember
    | user userId =>
        trivial
    | challenges =>
        trivial

theorem ends_confirm {input : ConfirmInput} {reauthToken : String} {ttlMinutes : Option ℚ}
    {now : Time} (called : calls client = .confirm input reauthToken ttlMinutes now)
    (result : Except AuthError ReauthReply)
    (standing : Standing (ReauthDatabase Digest × List (ι × ChallengeId))
      (ReauthDatabase Digest) (ReauthTarget Digest)) :
    (reauthDiscipline crypto calls).Ends (RedeemsToReturn crypto calls) client result
      standing := by
  intro _ _ _ other later consumes
  rw [called] at consumes
  cases consumes

omit [DecidableEq Digest] in
/-- What is live when the call commits was found, if nobody else has issued a token of the
user in between. -/
theorem mem_liveIds_of_alone {first second last : ReauthDatabase Digest} {input : ConfirmInput}
    {reauthToken : String} {ttlMinutes : Option ℚ} {now : Time}
    (laterSecond : first.Later second) (laterLast : second.Later last)
    (aloneSecond : (ReauthCall.confirm input reauthToken ttlMinutes now).Alone (some first)
      second)
    (aloneLast : (ReauthCall.confirm input reauthToken ttlMinutes now).Alone (some second) last)
    {challenge : ReauthChallenge Digest} (member : challenge ∈ last.challenges)
    (live : challenge.isLive input.userId now = true) :
    challenge.id ∈ first.liveIds input.userId now := by
  have knownSecond := aloneLast second rfl challenge member live
  obtain ⟨middle, foundMiddle, liveMiddle⟩ := laterLast.live_before member live knownSecond
  have sameMiddle : middle.id = challenge.id := second.challenges.key_of_find? foundMiddle
  have memberMiddle := second.challenges.mem_of_find? foundMiddle
  have knownFirst := aloneSecond first rfl middle memberMiddle liveMiddle
  obtain ⟨old, foundOld, liveOld⟩ := laterSecond.live_before memberMiddle liveMiddle knownFirst
  have sameOld : old.id = middle.id := first.challenges.key_of_find? foundOld
  rw [← sameMiddle, ← sameOld]
  exact List.mem_map_of_mem
    (List.mem_filter.mpr ⟨first.challenges.mem_of_find? foundOld, liveOld⟩)

theorem carries_replaceChallenges {input : ConfirmInput} {reauthToken : String}
    {ttlMinutes : Option ℚ} {now : Time} {tokenHash : Digest} {expiresAt : Time}
    (called : calls client = .confirm input reauthToken ttlMinutes now) :
    (reauthDiscipline crypto calls).Carries client (· = ·)
      (Script.transaction do
        consumeLiveChallenges input.userId now
        createChallenge input tokenHash expiresAt now) := by
  intro finish standing steady ends
  refine Discipline.safe_transaction ?_
  rw [consumeLiveChallenges, Script.bind_assoc]
  refine Discipline.safe_select_bind fun first _ _ _ =>
    ⟨fun state => first.1.Later state.1, ReauthDatabase.Later.refl _, later_stable _, ?_⟩
  rw [reauthDiscipline_data, ← steady.kept first.1, Script.bind_assoc]
  refine Discipline.safe_lockAll_bind (later_stable _) fun held _ locked => ?_
  refine Discipline.safe_lockAll_bind (later_stable _) fun more larger lockedHash => ?_
  have hashHeld : ReauthTarget.tokenHash tokenHash ∈ more :=
    lockedHash _ List.mem_cons_self
  have rowsHeld : ∀ challengeId ∈ first.1.liveIds input.userId now,
      ReauthTarget.challenge challengeId ∈ more := fun challengeId listed =>
    larger (locked _ (List.mem_map_of_mem listed))
  refine Discipline.safe_consult_bind fun second _ laterSecond allowedSecond => ?_
  split_ifs with unused
  · have free : ∀ challenge ∈ second.1.challenges, challenge.tokenHash ≠ tokenHash := by
      simp only [Function.comp_apply, reauthDiscipline_data, ← steady.kept second.1] at unused
      exact free_of_consumeMany unused
    refine ⟨_, ⟨ReauthDatabase.Later.refl second.1, free⟩,
      (later_stable second.1).and (free_stable hashHeld), ?_⟩
    refine reauth_tolerates.closes_ok ends fun last invariant known allowedLast => ?_
    have aloneSecond : (calls client).Alone (some first.1) second.1 := allowedSecond
    have aloneLast : (calls client).Alone (some second.1) last.1 := allowedLast.1
    rw [called] at aloneSecond aloneLast
    have keeps := @keeps_confirmed _ _ _ crypto calls more last input tokenHash expiresAt now _
      invariant rowsHeld hashHeld known.2 fun challenge member live =>
        mem_liveIds_of_alone laterSecond known.1 aloneSecond aloneLast member live
    refine ⟨_, ?_, keeps⟩
    simp only [Function.comp_apply, reauthDiscipline_data, ← steady.kept last.1]
  · exact ⟨fun _ => True, trivial, Discipline.stable_true _,
      reauth_tolerates.closes_error client ends _ _⟩

theorem safe_confirm {input : ConfirmInput} {reauthToken : String} {ttlMinutes : Option ℚ}
    {now : Time} (called : calls client = .confirm input reauthToken ttlMinutes now) :
    (reauthDiscipline crypto calls).Safe client
      ((reauthDiscipline crypto calls).Ends (RedeemsToReturn crypto calls) client)
      (Standing.initial _ _ _) ((calls client).procedure crypto) := by
  rw [called]
  have confirmed : (reauthDiscipline crypto calls).Carries client (· = ·)
      (confirmByPassword crypto input reauthToken ttlMinutes now) := by
    refine Discipline.Carries.bind
      (reauth_tolerates.carries (Script.leaves_consult _ _)) fun _ => ?_
    exact (carries_replaceChallenges called).bind fun _ => Discipline.carries_pure _
  exact (confirmed.bind fun _ => Discipline.carries_pure _) _ _
    ⟨Discipline.stable_true _, fun _ => rfl⟩ fun result middle _ =>
      ends_confirm called result middle

/-! ### Consumptions -/

/-- Only the locked challenge is written. -/
theorem same_mark {held : Set (ReauthTarget Digest)}
    {before after : ReauthDatabase Digest × List (ι × ChallengeId)} {challengeId : ChallengeId}
    {now : Time} (locked : ReauthTarget.challenge challengeId ∈ held)
    (written : after.1.challenges = (before.1.consumeMany
      (fun challenge => Keyed.key challenge == challengeId) now).challenges) :
    ∀ row ∉ held, (reauthDiscipline crypto calls).same row before after := by
  intro row unlocked
  cases row with
  | challenge other =>
      intro challenge stored
      have apart : other ≠ challengeId := fun same => unlocked (same ▸ locked)
      have sameId : challenge.id = other := before.1.challenges.key_of_find? stored
      rw [written, find?_consumeMany, stored, Option.map_some]
      simp [consumedWhere, sameId, apart]
  | tokenHash other =>
      intro unused challenge member
      rw [written] at member
      obtain ⟨old, oldMember, rfl⟩ := mem_consumeMany.mp member
      have fixed := fixed_consumedWhere
        (fun challenge => Keyed.key challenge == challengeId) now old
      simp only [ReauthChallenge.fixed, Prod.mk.injEq] at fixed
      rw [fixed.2.2.1]
      exact unused old oldMember
  | user userId =>
      trivial
  | challenges =>
      trivial

theorem carries_markConsumed (challengeId : ChallengeId) (now : Time) :
    (reauthDiscipline crypto calls).Carries client (· = ·)
      (markConsumed challengeId now : ReauthProcedure Digest Unit) := by
  intro finish standing steady ends
  refine Discipline.safe_transaction fun state _ knows _ => ?_
  refine ⟨standing.know, knows, steady.stable.mono (Set.subset_insert _ _), ?_⟩
  refine reauth_tolerates.closes_ok ends fun last invariant _ _ => ?_
  refine ⟨(last.1.consumeMany (fun challenge => Keyed.key challenge == challengeId) now,
    last.2), ?_, ⟨sound_consumeMany invariant.1, invariant.2⟩, ⟨later_consumeMany,
      fun _ listed => listed, fun _ listed => listed⟩, ?_⟩
  · simp only [Function.comp_apply, reauthDiscipline_data, ← steady.kept last.1]
    rfl
  · exact same_mark (Set.mem_insert _ _) rfl

theorem judgement_eq_accepted {database : ReauthDatabase Digest} {input : ConsumeInput} {now : Time}
    {challenge : ReauthChallenge Digest}
    (verdict : database.judge crypto input now = .accepted challenge) :
    database.challenges.find? challenge.id = some challenge ∧
      challenge.userId = input.userId ∧
        challenge.tokenHash = crypto.sha256 (trim input.token) ∧
          now < challenge.expiresAt ∧ purposesConflict input.purpose challenge.purpose = false := by
  unfold ReauthDatabase.judge at verdict
  split at verdict
  · cases verdict
  · next found =>
      obtain ⟨member, chosen⟩ := database.challenges.mem_of_findFirst? found
      split_ifs at verdict with consumed expired conflict
      cases verdict
      simp only [Bool.and_eq_true, decide_eq_true_eq] at chosen
      exact ⟨database.challenges.find?_eq_some_iff.mpr ⟨member, rfl⟩, chosen.1, chosen.2,
        not_le.mp expired, by simpa using conflict⟩

/-- A call which does not return `ok` promises nothing. -/
theorem ends_refused {result : Except AuthError ReauthReply}
    (refused : result ≠ .ok (.consumed ⟨true, none⟩))
    (standing : Standing (ReauthDatabase Digest × List (ι × ChallengeId))
      (ReauthDatabase Digest) (ReauthTarget Digest)) :
    (reauthDiscipline crypto calls).Ends (RedeemsToReturn crypto calls) client result
      standing :=
  fun _ _ _ _ _ _ returned => absurd returned refused

/-- The challenge is stored, as far as its fixed columns go; so it stays. -/
theorem stored_stable {held : Set (ReauthTarget Digest)} (challenge : ReauthChallenge Digest) :
    (reauthDiscipline crypto calls).Stable held fun state =>
      ∃ row, state.1.challenges.find? challenge.id = some row ∧ row.fixed = challenge.fixed := by
  rintro before after _ _ ⟨later, _, _⟩ ⟨row, found, same⟩
  obtain ⟨present, foundPresent, sameLater, _⟩ := later _ row found
  exact ⟨present, foundPresent, sameLater.trans same⟩

theorem keeps_redeemed {held : Set (ReauthTarget Digest)}
    {state : ReauthDatabase Digest × List (ι × ChallengeId)} {input : ConsumeInput} {now : Time}
    {row : ReauthChallenge Digest}
    (invariant : (reauthDiscipline crypto calls).invariant state)
    (locked : ReauthTarget.challenge row.id ∈ held)
    (sound : (state.1.redeem row.id input now).Sound) :
    (reauthDiscipline crypto calls).Keeps held state
      (state.1.redeem row.id input now, (client, row.id) :: state.2) := by
  refine ⟨⟨sound, ?_⟩, ⟨later_redeem row.id, fun _ => List.mem_cons_of_mem _,
    fun _ => List.mem_cons_of_mem _⟩, same_mark locked rfl⟩
  exact congrArg (List.cons row.id) invariant.2

/-- The challenge of an accepted token is redeemed. -/
theorem safe_redeem {input : ConsumeInput} {now : Time} {challenge : ReauthChallenge Digest}
    {finish : Except AuthError Unit → Standing (ReauthDatabase Digest × List (ι × ChallengeId))
      (ReauthDatabase Digest) (ReauthTarget Digest) → Prop}
    {standing : Standing (ReauthDatabase Digest × List (ι × ChallengeId))
      (ReauthDatabase Digest) (ReauthTarget Digest)}
    (called : calls client = .consume input now)
    (decided : (calls client).accepts crypto standing.seen = some challenge.id)
    (own : challenge.userId = input.userId)
    (digest : challenge.tokenHash = crypto.sha256 (trim input.token))
    (unexpired : now < challenge.expiresAt)
    (purpose : purposesConflict input.purpose challenge.purpose = false)
    (stored : ∀ state, standing.know state →
      ∃ row, state.1.challenges.find? challenge.id = some row ∧ row.fixed = challenge.fixed)
    (settled : ∀ database, database = standing.pending database)
    (ends : ∀ middle, middle.know = HasRedeemed crypto client input now →
      finish (.ok ()) middle) :
    (reauthDiscipline crypto calls).Safe client finish standing
      (redeemChallenge challenge.id input now) := by
  refine Discipline.safe_transaction fun state _ knows allowed => ?_
  obtain ⟨row, found, same⟩ := stored state knows
  have unconsumed : row.consumedAt = none := allowed decided row found
  simp only [ReauthChallenge.fixed, Prod.mk.injEq] at same
  obtain ⟨sameId, sameUser, sameHash, sameExpiry, samePurpose, _⟩ := same
  rw [← sameId] at found decided ⊢
  have locked : ReauthTarget.challenge row.id ∈ insert (ReauthTarget.challenge row.id)
      standing.held := Set.mem_insert _ _
  refine ⟨_, found, row_stable locked, ?_⟩
  intro last invariant foundLast allowedLast
  have timely : (calls client).Timely crypto standing.seen last.1 := allowedLast.2
  have newest : ∀ other ∈ last.1.challenges, other.userId = input.userId →
      other.createdAt ≤ now := by
    rw [called] at timely decided
    exact timely (by rw [decided]; rfl)
  have sound : (last.1.redeem row.id input now).Sound :=
    sound_redeem invariant.1 foundLast unconsumed (sameUser.trans own) (sameExpiry ▸ unexpired)
      (samePurpose ▸ purpose) newest
  refine ⟨(last.1.redeem row.id input now, (client, row.id) :: last.2), ?_,
    keeps_redeemed invariant locked sound, HasRedeemed crypto client input now, ?_,
    hasRedeemed_stable, ends _ rfl⟩
  · simp only [Function.comp_apply, reauthDiscipline_data, ← settled last.1]
  · exact ⟨_, List.mem_cons_self, List.mem_cons_self, rfl, rfl, rfl,
      consumedChallenge now row, redeemed_find? foundLast, sameHash.trans digest⟩

theorem safe_consume {input : ConsumeInput} {now : Time}
    (called : calls client = .consume input now) :
    (reauthDiscipline crypto calls).Safe client
      ((reauthDiscipline crypto calls).Ends (RedeemsToReturn crypto calls) client)
      (Standing.initial _ _ _) ((calls client).procedure crypto) := by
  -- the cases come first, as long as the goal is no comparison of texts to compute
  rcases eq_or_ne (trim input.token) "" with missing | present
  · rw [called, ReauthCall.procedure, consumeChallenge, if_pos missing]
    exact ends_refused (by simp) _
  · rw [called, ReauthCall.procedure, consumeChallenge, if_neg present, Script.bind_assoc]
    refine Discipline.safe_select_bind fun state _ _ _ => ?_
    simp only [reauthDiscipline_data, Standing.initial, id_eq]
    cases verdict : state.1.judge crypto input now with
    | refused reason =>
        exact ⟨fun _ => True, trivial, Discipline.stable_true _, ends_refused (by simp) _⟩
    | expired challenge =>
        refine ⟨fun _ => True, trivial, Discipline.stable_true _, ?_⟩
        refine Discipline.safe_script_bind (Discipline.safe_script_bind
          (carries_markConsumed challenge.id now _ _ ⟨Discipline.stable_true _, fun _ => rfl⟩ ?_))
        intro result middle _
        cases result with
        | ok done =>
            exact ends_refused (by simp) middle
        | error error =>
            exact ends_refused (by simp) middle
    | accepted challenge =>
        obtain ⟨found, own, digest, unexpired, purpose⟩ := judgement_eq_accepted verdict
        refine ⟨_, ⟨challenge, found, rfl⟩, stored_stable challenge, ?_⟩
        refine Discipline.safe_script_bind (Discipline.safe_script_bind ?_)
        refine safe_redeem called ?_ own digest unexpired purpose (fun _ stored => stored)
          (fun _ => rfl) ?_
        · simp [ReauthCall.accepts, called, verdict]
        · intro middle known state _ knows other later consumes _
          rw [called] at consumes
          cases consumes
          rw [known] at knows
          exact knows

theorem safe_reauthCall :
    (reauthDiscipline crypto calls).Safe client
      ((reauthDiscipline crypto calls).Ends (RedeemsToReturn crypto calls) client)
      (Standing.initial _ _ _) ((calls client).procedure crypto) := by
  cases called : calls client with
  | confirm input reauthToken ttlMinutes now =>
      rw [← called]
      exact safe_confirm called
  | consume input now =>
      rw [← called]
      exact safe_consume called

end Calls

/-! ## One action for each token -/

section Runs

variable {ι : Type} [DecidableEq ι]

/-- Users, and no challenge yet. -/
def ReauthDatabase.initial (Digest : Type) (users : Table User) : ReauthDatabase Digest where
  users := users
  challenges := .empty
  redemptions := []

/-- A run of the calls from a database without challenges. -/
def reauthRun (crypto : ReauthCrypto Digest) (users : Table User) (calls : ι → ReauthCall)
    (schedule : List (ι × Turn)) :
    Cluster (ReauthDatabase Digest) (ReauthTarget Digest) ι (Except AuthError ReauthReply) :=
  (readCommitted _ _ ι _).run
    (Cluster.start (ReauthDatabase.initial Digest users) fun client =>
      (calls client).procedure crypto) schedule

/-- The call has presented the token and returned `ok`. -/
def Authorises (cluster : Cluster (ReauthDatabase Digest) (ReauthTarget Digest) ι
    (Except AuthError ReauthReply)) (calls : ι → ReauthCall) (token : String)
    (client : ι) (input : ConsumeInput) (now : Time) : Prop :=
  calls client = .consume input now ∧ trim input.token = token ∧
    (cluster.session client).program = .done (.ok (.consumed ⟨true, none⟩))

/-- Every token authorises one action at most, of its user, before it expires, without a
conflict of purposes and before a later token of the user is issued. -/
structure AuthorisesOnce (crypto : ReauthCrypto Digest) (calls : ι → ReauthCall)
    (cluster : Cluster (ReauthDatabase Digest) (ReauthTarget Digest) ι
      (Except AuthError ReauthReply)) : Prop where
  alone : ∀ token first second input now other later,
    Authorises cluster calls token first input now →
      Authorises cluster calls token second other later → first = second
  once : (cluster.data.redemptions.map Redemption.challengeId).Nodup
  rightly : ∀ token client input now, Authorises cluster calls token client input now →
    ∃ challenge ∈ cluster.data.challenges, ∃ redemption ∈ cluster.data.redemptions,
      redemption.challengeId = challenge.id ∧
        challenge.tokenHash = crypto.sha256 token ∧ challenge.userId = input.userId ∧
          now < challenge.expiresAt ∧
            purposesConflict input.purpose challenge.purpose = false ∧
              ∀ later ∈ cluster.data.challenges, later.userId = challenge.userId →
                challenge.id < later.id → redemption.issued ≤ later.id

omit [DecidableEq Digest] in
theorem initial_sound (users : Table User) : (ReauthDatabase.initial Digest users).Sound where
  hashes := fun first member => absurd member (Table.not_mem_empty first)
  superseded := fun first member => absurd member (Table.not_mem_empty first)
  once := List.nodup_nil
  redeemed := fun _ member => absurd member List.not_mem_nil

/-- Every token authorises one action at most in a run in which no challenge has been
consumed, and no later one issued, when it is redeemed, and in which no two confirmations
of one user overlap. -/
theorem token_authorises_once (crypto : ReauthCrypto Digest) (users : Table User)
    (calls : ι → ReauthCall) (schedule : List (ι × Turn))
    (undisturbed : (readCommitted (ReauthDatabase Digest) (ReauthTarget Digest) ι
        (Except AuthError ReauthReply)).Along
      (Cluster.Obeys fun client => (calls client).Undisturbed crypto)
      (Cluster.start (ReauthDatabase.initial Digest users) fun client =>
        (calls client).procedure crypto) schedule) :
    AuthorisesOnce crypto calls (reauthRun crypto users calls schedule) := by
  obtain ⟨after, lawful⟩ := @Discipline.run_lawful _ _ _ _ _ (reauthDiscipline crypto calls)
    (RedeemsToReturn crypto calls) _ _ (ReauthDatabase.initial Digest users, [])
    ⟨initial_sound users, rfl⟩ _ (fun client => safe_reauthCall) schedule undisturbed
  have sameData : after.1 = (reauthRun crypto users calls schedule).data := lawful.data
  obtain ⟨sound, remembered⟩ := lawful.invariant
  have redeemed : ∀ token client input now,
      Authorises (reauthRun crypto users calls schedule) calls token client input now →
        HasRedeemed crypto client input now after := by
    rintro token client input now ⟨called, _, returned⟩
    exact lawful.post_of_done returned input now called rfl
  refine ⟨?_, sameData ▸ sound.once, ?_⟩
  · intro token first second input now other later authorisesFirst authorisesSecond
    obtain ⟨redemption, member, listed, _, _, _, challenge, found, digest⟩ :=
      redeemed _ _ _ _ authorisesFirst
    obtain ⟨redemptionOther, memberOther, listedOther, _, _, _, challengeOther, foundOther,
      digestOther⟩ := redeemed _ _ _ _ authorisesSecond
    have sameHash : challenge.tokenHash = challengeOther.tokenHash := by
      rw [digest, digestOther, authorisesFirst.2.1, authorisesSecond.2.1]
    have sameChallenge := sound.hashes challenge (after.1.challenges.mem_of_find? found)
      challengeOther (after.1.challenges.mem_of_find? foundOther) sameHash
    have sameId : redemption.challengeId = redemptionOther.challengeId := by
      rw [← after.1.challenges.key_of_find? found, ← after.1.challenges.key_of_find? foundOther,
        sameChallenge]
    have distinct : (after.2.map Prod.snd).Nodup := remembered ▸ sound.once
    have sameEntry := List.inj_on_of_nodup_map distinct listed listedOther sameId
    exact (Prod.mk.inj sameEntry).1
  · intro token client input now authorises
    obtain ⟨redemption, member, _, user, purpose, time, challenge, found, digest⟩ :=
      redeemed _ _ _ _ authorises
    obtain ⟨_, stored, foundStored, _, rightful, newest⟩ := sound.redeemed redemption member
    rw [found] at foundStored
    cases foundStored
    rw [← sameData]
    refine ⟨challenge, after.1.challenges.mem_of_find? found, redemption, member,
      (after.1.challenges.key_of_find? found).symm, authorises.2.1 ▸ digest,
      rightful.user.symm.trans user, time ▸ rightful.unexpired, purpose ▸ rightful.purpose,
      newest⟩

end Runs

/-! ## A token which authorises two actions -/

section Sample

def sampleReauthCrypto : ReauthCrypto String where
  sha256 := id
  comparePassword := fun password passwordHash => password = passwordHash

def sampleReauthUsers : Table User :=
  Table.empty.place ⟨0, "ana@tchuno.test", none, "segredo1", .admin, none, true⟩

/-- A token is issued, and two requests present it. -/
def sampleReauthCalls (client : Fin 3) : ReauthCall :=
  if client = 0 then .confirm ⟨0, "segredo1", none⟩ "token" none 1000
  else .consume ⟨0, "token", some "admin.user.delete"⟩ 2000

/-- The second request reads the challenge before the first has marked it. -/
def sampleReauthOverlap : List (Fin 3 × Turn) :=
  List.replicate 7 (0, .advance) ++ [(1, .advance)] ++ List.replicate 4 (2, .advance) ++
    List.replicate 3 (1, .advance)

/-- The program has returned that the action is authorised. -/
def isAuthorised :
    Program (ReauthDatabase Digest) (ReauthTarget Digest) (Except AuthError ReauthReply) → Bool
  | .done (.ok (.consumed result)) => result = ⟨true, none⟩
  | _ => false

omit [DecidableEq Digest] in
theorem done_of_isAuthorised {program : Program (ReauthDatabase Digest) (ReauthTarget Digest)
      (Except AuthError ReauthReply)} (authorised : isAuthorised program = true) :
    program = .done (.ok (.consumed ⟨true, none⟩)) := by
  unfold isAuthorised at authorised
  split at authorised
  · rw [of_decide_eq_true authorised]
  · cases authorised

theorem token_authorises_twice :
    ¬ AuthorisesOnce sampleReauthCrypto sampleReauthCalls
      (reauthRun sampleReauthCrypto sampleReauthUsers sampleReauthCalls
        sampleReauthOverlap) := by
  intro once
  have first := @done_of_isAuthorised _ ((reauthRun sampleReauthCrypto sampleReauthUsers
    sampleReauthCalls sampleReauthOverlap).session 1).program (by decide +kernel)
  have second := @done_of_isAuthorised _ ((reauthRun sampleReauthCrypto sampleReauthUsers
    sampleReauthCalls sampleReauthOverlap).session 2).program (by decide +kernel)
  have same : (1 : Fin 3) = 2 := once.alone "token" 1 2 _ _ _ _
    ⟨rfl, by decide +kernel, first⟩ ⟨rfl, by decide +kernel, second⟩
  cases same

/-- One after the other; the second request is refused. -/
def sampleReauthInTurn : List (Fin 3 × Turn) :=
  List.replicate 7 (0, .advance) ++ List.replicate 4 (2, .advance) ++
    List.replicate 4 (1, .advance)

theorem token_authorises_in_turn :
    AuthorisesOnce sampleReauthCrypto sampleReauthCalls
      (reauthRun sampleReauthCrypto sampleReauthUsers sampleReauthCalls sampleReauthInTurn) :=
  token_authorises_once sampleReauthCrypto sampleReauthUsers sampleReauthCalls
    sampleReauthInTurn (by decide +kernel)

end Sample

end Tchuno.Auth
