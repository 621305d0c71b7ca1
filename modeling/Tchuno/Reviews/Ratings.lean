import Tchuno.Reviews.Reviews

/-!
# Ratings of worker profiles

The columns of a profile repeat what its reviews say.  They are written when a review is
stored, from an aggregate which was taken before: they are right as long as no review of
the profile is stored in between, and as long as no review is deleted alone.
-/

namespace Tchuno.Reviews

open Tchuno.Library Tchuno.Library.Ecma Tchuno.Payments Tchuno.AdminOps

/-! ## What the columns mean -/

/-- The mean of no ratings is zero. -/
def mean (ratings : List ℕ) : ℚ :=
  ((ratings.sum : ℤ) : ℚ) / ratings.length

/-- The columns are those of a profile with these reviews. -/
structure ProfileRating.Describes (rating : ProfileRating) (reviews : List Review) : Prop where
  count : rating.ratingCount = reviews.length
  nearest : IsNearestHundredth rating.ratingAvg (mean (ratingValues reviews))

def Matches (reviewed : ReviewedStore) : Prop :=
  ∀ workerProfileId,
    (reviewed.ratings workerProfileId).Describes (reviewed.reviewsOf workerProfileId)

/-- What a step must not do: store a review when the reviews of its profile are no longer
those of its aggregate, or delete a review and leave its profile. -/
def KeepsRatings (reviewed : ReviewedStore) : ReviewStep → Prop
  | .advance number =>
      ∀ call workerProfileId others, reviewed.calls[number]? = some call →
        call.phase = .updated workerProfileId others →
          others = reviewed.reviewsOf workerProfileId
  | .deleteUser targetUserId actorUserId =>
      ∀ user, deletes? reviewed targetUserId actorUserId = some user →
        ∀ review ∈ reviewed.reviews, review.goes reviewed user.id = true →
          goesProfile reviewed user.id review.workerProfileId = true
  | _ => True

/-! ## The aggregate -/

theorem le_sum_of_ratings (reviews : List Review) :
    reviews.length ≤ (ratingValues reviews).sum ∧
      (ratingValues reviews).sum ≤ 5 * reviews.length := by
  induction reviews with
  | nil =>
      exact ⟨le_rfl, le_rfl⟩
  | cons review rest inductionHypothesis =>
      have least := review.rating.least
      have most := review.rating.most
      simp only [ratingValues, List.map_cons, List.sum_cons, List.length_cons]
        at inductionHypothesis ⊢
      omega

theorem mean_bounds {reviews : List Review} (some : reviews ≠ []) :
    0 < mean (ratingValues reviews) ∧ mean (ratingValues reviews) < 8 := by
  have positive : (0 : ℚ) < reviews.length := by
    exact_mod_cast List.length_pos_iff.mpr some
  have bounds := le_sum_of_ratings reviews
  have least : (reviews.length : ℚ) ≤ (ratingValues reviews).sum := by
    exact_mod_cast bounds.1
  have most : ((ratingValues reviews).sum : ℚ) ≤ 5 * reviews.length := by
    exact_mod_cast bounds.2
  have sameLength : (ratingValues reviews).length = reviews.length := by
    simp [ratingValues]
  rw [mean, sameLength, Int.cast_natCast]
  constructor
  · exact div_pos (positive.trans_le least) positive
  · rw [div_lt_iff₀ positive]
    linarith

theorem profileRating_describes {reviews : List Review} (some : reviews ≠ [])
    (few : reviews.length ≤ integerMax) :
    (profileRating (ratingValues reviews)).Describes reviews := by
  have sameLength : (ratingValues reviews).length = reviews.length := by
    simp [ratingValues]
  have nonempty : ratingValues reviews ≠ [] := by
    intro none
    rw [none] at sameLength
    exact some (List.length_eq_zero_iff.mp sameLength.symm)
  have bounds := mean_bounds some
  have computed : (average (ratingValues reviews)).getD 0 =
      toDouble (mean (ratingValues reviews)) := by
    rw [average, if_neg nonempty, Option.getD_some, mean, Int.cast_natCast]
  constructor
  · exact sameLength
  · rw [profileRating, computed]
    apply toFixed2_toDouble bounds.1 bounds.2
    rw [sameLength]
    exact few.trans_lt (by decide)

theorem default_describes : ProfileRating.default.Describes [] := by
  refine ⟨rfl, ⟨0, ?_⟩, ?_⟩
  · simp [ProfileRating.default]
  · simp [ProfileRating.default, mean, ratingValues]

/-! ## Phases -/

/-- The profile and the reviews of which the call has the aggregate. -/
def Phase.aggregate? : Phase → Option (Nat × List Review)
  | .aggregated workerProfileId others => some (workerProfileId, others)
  | .updated workerProfileId others => some (workerProfileId, others)
  | _ => none

theorem inserted?_of_aggregate? {phase : Phase} {workerProfileId : Nat} {others : List Review}
    (taken : phase.aggregate? = some (workerProfileId, others)) :
    phase.inserted? = some workerProfileId := by
  cases phase <;> simp_all [Phase.aggregate?, Phase.inserted?]

variable {reviewed : ReviewedStore}

theorem mem_setPhase {number : Nat} {phase : Phase} {call : Call}
    (member : call ∈ (reviewed.setPhase number phase).calls) :
    call ∈ reviewed.calls ∨
      ∃ old, reviewed.calls[number]? = some old ∧ call = { old with phase := phase } := by
  obtain ⟨index, stored⟩ := List.mem_iff_getElem?.mp member
  rw [ReviewedStore.setPhase, List.getElem?_modify, Option.map_eq_map,
    Option.map_eq_some_iff] at stored
  obtain ⟨old, found, made⟩ := stored
  by_cases same : number = index
  · rw [if_pos same] at made
    rw [same]
    exact .inr ⟨old, found, made.symm⟩
  · rw [if_neg same] at made
    rw [← made]
    exact .inl (List.mem_of_getElem? found)

/-! ## The invariant -/

/-- What a call has the aggregate of is the older part of the reviews of its profile. -/
structure Call.IsOlder (call : Call) (reviewed : ReviewedStore) : Prop where
  older : ∀ workerProfileId others, call.phase.aggregate? = some (workerProfileId, others) →
    others <:+ reviewed.reviewsOf workerProfileId
  few : ∀ workerProfileId others, call.phase = .updated workerProfileId others →
    others.length + 1 ≤ integerMax

structure Rated (reviewed : ReviewedStore) : Prop where
  matched : Matches reviewed
  calls : ∀ call ∈ reviewed.calls, call.IsOlder reviewed

theorem isOlder_of_aggregate?_eq_none {call : Call} (none : call.phase.aggregate? = none) :
    call.IsOlder reviewed := by
  constructor
  · intro workerProfileId others taken
    rw [none] at taken
    cases taken
  · intro workerProfileId others updated
    rw [updated] at none
    cases none

/-- The next phase of a call which does not commit. -/
theorem next_isOlder {call : Call} (older : call.IsOlder reviewed) :
    ({ call with phase := call.next reviewed } : Call).IsOlder reviewed := by
  cases phase : call.phase with
  | called =>
      apply isOlder_of_aggregate?_eq_none
      simp only [Call.next, phase]
      cases call.findJob reviewed <;> rfl
  | found job =>
      apply isOlder_of_aggregate?_eq_none
      simp only [Call.next, phase]
      split_ifs <;> rfl
  | accepted workerProfileId =>
      apply isOlder_of_aggregate?_eq_none
      simp only [Call.next, phase]
      split_ifs
      · rfl
      · cases call.insertable reviewed workerProfileId <;> rfl
  | inserted workerProfileId =>
      constructor
      · intro other others taken
        simp only [Call.next, phase, Phase.aggregate?, Option.some.injEq, Prod.mk.injEq] at taken
        rw [← taken.1, ← taken.2]
      · intro other others updated
        simp [Call.next, phase] at updated
  | aggregated workerProfileId others =>
      have taken := older.older workerProfileId others (by rw [phase]; rfl)
      by_cases waits : isUpdating reviewed workerProfileId = true
      · have same : call.next reviewed = call.phase := by
          simp only [Call.next, phase, if_pos waits]
        rw [same]
        exact older
      · cases updatable : call.updatable reviewed workerProfileId others with
        | error error =>
            apply isOlder_of_aggregate?_eq_none
            simp only [Call.next, phase, if_neg waits, updatable]
            rfl
        | ok done =>
            have next : call.next reviewed = .updated workerProfileId others := by
              simp only [Call.next, phase, if_neg waits, updatable]
              rfl
            simp only [Call.updatable, gate_bind_eq_ok, guardThat_eq_ok] at updatable
            obtain ⟨_, _, few⟩ := updatable
            rw [next]
            constructor
            · intro other reviews same
              simp only [Phase.aggregate?, Option.some.injEq, Prod.mk.injEq] at same
              rw [← same.1, ← same.2]
              exact taken
            · intro other reviews same
              simp only [Phase.updated.injEq] at same
              rw [← same.2]
              simpa [Call.ratings, ratingValues] using few
  | updated workerProfileId others =>
      apply isOlder_of_aggregate?_eq_none
      simp only [Call.next, phase]
      rfl
  | returned =>
      apply isOlder_of_aggregate?_eq_none
      simp only [Call.next, phase]
      rfl
  | failed error =>
      apply isOlder_of_aggregate?_eq_none
      simp only [Call.next, phase]
      rfl

/-- Phases aside, the reviews and the ratings are the same. -/
theorem isOlder_congr {after : ReviewedStore} {call : Call}
    (same : ∀ workerProfileId others,
      call.phase.aggregate? = some (workerProfileId, others) →
        reviewed.reviewsOf workerProfileId <:+ after.reviewsOf workerProfileId)
    (older : call.IsOlder reviewed) : call.IsOlder after := by
  refine ⟨fun workerProfileId others taken => ?_, older.few⟩
  exact (older.older workerProfileId others taken).trans (same workerProfileId others taken)

/-- A call may be put into a phase which suits it. -/
theorem rated_setPhase (rated : Rated reviewed) {number : Nat} {phase : Phase}
    (suits : ∀ old, reviewed.calls[number]? = some old →
      ({ old with phase := phase } : Call).IsOlder reviewed) :
    Rated (reviewed.setPhase number phase) := by
  refine ⟨rated.matched, fun call member => ?_⟩
  rcases mem_setPhase member with before | ⟨old, found, made⟩
  · exact @isOlder_congr reviewed _ _ (fun _ _ _ => List.suffix_rfl) (rated.calls call before)
  · rw [made]
    exact @isOlder_congr reviewed _ _ (fun _ _ _ => List.suffix_rfl) (suits old found)

/-! ## Commits -/

section Commit

variable {call : Call} {workerProfileId : Nat} {others : List Review}

theorem reviewsOf_commit (other : Nat) :
    (call.commit reviewed workerProfileId others).reviewsOf other =
      if other = workerProfileId then
        call.review workerProfileId reviewed.reviews.nextId :: reviewed.reviewsOf other
      else reviewed.reviewsOf other := by
  simp only [ReviewedStore.reviewsOf, Call.commit, Table.findMany, Table.insert]
  by_cases same : other = workerProfileId
  · rw [if_pos same, List.filter_cons_of_pos]
    simp [Call.review, same]
  · rw [if_neg same, List.filter_cons_of_neg]
    simp [Call.review, Ne.symm same]

theorem ratings_commit (other : Nat) :
    (call.commit reviewed workerProfileId others).ratings other =
      if other = workerProfileId then profileRating (call.ratings others)
      else reviewed.ratings other := by
  simp only [Call.commit, Function.update_apply]

theorem call_ratings (id : Nat) :
    call.ratings others = ratingValues (call.review workerProfileId id :: others) :=
  rfl

/-- A commit leaves the ratings right exactly if no review of the profile has come since
its aggregate. -/
theorem matches_commit (matched : Matches reviewed)
    (older : others <:+ reviewed.reviewsOf workerProfileId)
    (few : others.length + 1 ≤ integerMax) :
    Matches (call.commit reviewed workerProfileId others) ↔
      others = reviewed.reviewsOf workerProfileId := by
  constructor
  · intro right
    have count := (right workerProfileId).count
    rw [reviewsOf_commit, ratings_commit, if_pos rfl, if_pos rfl] at count
    have sameLength : others.length = (reviewed.reviewsOf workerProfileId).length := by
      simpa [profileRating, Call.ratings, ratingValues] using count
    exact older.eq_of_length sameLength
  · intro same other
    rw [reviewsOf_commit, ratings_commit]
    by_cases profile : other = workerProfileId
    · rw [if_pos profile, if_pos profile, profile, ← same,
        @call_ratings call workerProfileId others reviewed.reviews.nextId]
      exact profileRating_describes (List.cons_ne_nil _ _) few
    · rw [if_neg profile, if_neg profile]
      exact matched other

theorem rated_commit (rated : Rated reviewed) {number : Nat}
    (right : Matches (call.commit reviewed workerProfileId others)) :
    Rated ((call.commit reviewed workerProfileId others).setPhase number .returned) := by
  have committed : Rated (call.commit reviewed workerProfileId others) := by
    refine ⟨right, fun other member => ?_⟩
    refine @isOlder_congr reviewed _ _ (fun profile _ _ => ?_) (rated.calls other member)
    rw [reviewsOf_commit]
    split_ifs
    · exact List.suffix_cons _ _
    · exact List.suffix_rfl
  exact rated_setPhase committed fun old _ => isOlder_of_aggregate?_eq_none rfl

end Commit

/-! ## Deletions -/

section Deletion

variable {userId : UserId}

theorem reviewsOf_cascaded (workerProfileId : Nat) :
    (cascadedReviews reviewed userId).reviewsOf workerProfileId =
      (reviewed.reviewsOf workerProfileId).filter fun review =>
        !review.goes reviewed userId := by
  simp only [ReviewedStore.reviewsOf, cascadedReviews, Table.findMany, Table.deleteMany,
    List.filter_filter]
  congr 1
  funext review
  exact Bool.and_comm _ _

theorem profile_of_mem_reviewsOf {review : Review} {workerProfileId : Nat}
    (member : review ∈ reviewed.reviewsOf workerProfileId) :
    review ∈ reviewed.reviews ∧ review.workerProfileId = workerProfileId := by
  obtain ⟨stored, profile⟩ := List.mem_filter.mp member
  exact ⟨stored, by simpa using profile⟩

theorem goes_of_profile {review : Review} {workerProfileId : Nat}
    (gone : goesProfile reviewed userId workerProfileId = true)
    (profile : review.workerProfileId = workerProfileId) :
    review.goes reviewed userId = true := by
  rw [Review.goes, goesReview, profile, gone, Bool.or_true]

/-- The reviews of a profile which stays, if no review goes alone. -/
theorem reviewsOf_cascaded_of_stays {workerProfileId : Nat}
    (alone : ∀ review ∈ reviewed.reviews, review.goes reviewed userId = true →
      goesProfile reviewed userId review.workerProfileId = true)
    (stays : goesProfile reviewed userId workerProfileId = false) :
    (cascadedReviews reviewed userId).reviewsOf workerProfileId =
      reviewed.reviewsOf workerProfileId := by
  rw [reviewsOf_cascaded, List.filter_eq_self]
  intro review member
  obtain ⟨stored, profile⟩ := profile_of_mem_reviewsOf member
  rw [Bool.not_eq_true']
  by_contra goes
  have gone := alone review stored (by simpa using goes)
  rw [profile, stays] at gone
  cases gone

/-- A deletion leaves the ratings right exactly if no review goes without its profile. -/
theorem matches_cascaded (matched : Matches reviewed) :
    Matches (cascadedReviews reviewed userId) ↔
      ∀ review ∈ reviewed.reviews, review.goes reviewed userId = true →
        goesProfile reviewed userId review.workerProfileId = true := by
  constructor
  · intro right review stored goes
    by_contra stays
    have unchanged : (cascadedReviews reviewed userId).ratings review.workerProfileId =
        reviewed.ratings review.workerProfileId := if_neg stays
    have count := (right review.workerProfileId).count
    rw [unchanged, (matched review.workerProfileId).count, reviewsOf_cascaded] at count
    have kept := List.length_filter_eq_length_iff.mp count.symm review
      (List.mem_filter.mpr ⟨stored, by simp⟩)
    rw [goes] at kept
    cases kept
  · intro alone workerProfileId
    by_cases gone : goesProfile reviewed userId workerProfileId = true
    · have reset : (cascadedReviews reviewed userId).ratings workerProfileId = .default :=
        if_pos gone
      have none : (cascadedReviews reviewed userId).reviewsOf workerProfileId = [] := by
        rw [reviewsOf_cascaded, List.filter_eq_nil_iff]
        intro review member
        rw [goes_of_profile gone (profile_of_mem_reviewsOf member).2]
        decide
      rw [reset, none]
      exact default_describes
    · have unchanged : (cascadedReviews reviewed userId).ratings workerProfileId =
          reviewed.ratings workerProfileId := if_neg gone
      rw [unchanged, reviewsOf_cascaded_of_stays alone (by simpa using gone)]
      exact matched workerProfileId

theorem rated_cascaded (rated : Rated reviewed)
    (free : ∀ call ∈ reviewed.calls, call.holds reviewed userId = false)
    (alone : ∀ review ∈ reviewed.reviews, review.goes reviewed userId = true →
      goesProfile reviewed userId review.workerProfileId = true) :
    Rated (cascadedReviews reviewed userId) := by
  refine ⟨(matches_cascaded rated.matched).mpr alone, fun call member => ?_⟩
  refine @isOlder_congr reviewed _ _ (fun workerProfileId others taken => ?_)
    (rated.calls call member)
  have stays : goesProfile reviewed userId workerProfileId = false := by
    have held := free call member
    simp only [Call.holds, inserted?_of_aggregate? taken, Option.any_some, goesReview,
      Bool.or_eq_false_iff] at held
    exact held.2
  rw [reviewsOf_cascaded_of_stays alone stays]

end Deletion

/-! ## Every run -/

theorem advance_of_updated {number : Nat} {call : Call} {workerProfileId : Nat}
    {others : List Review} (found : reviewed.calls[number]? = some call)
    (updated : call.phase = .updated workerProfileId others) :
    advance number reviewed =
      (call.commit reviewed workerProfileId others).setPhase number .returned := by
  simp only [advance, found, updated]

theorem advance_of_not_updated {number : Nat} {call : Call}
    (found : reviewed.calls[number]? = some call)
    (early : ∀ workerProfileId others, call.phase ≠ .updated workerProfileId others) :
    advance number reviewed = reviewed.setPhase number (call.next reviewed) := by
  simp only [advance, found]

theorem keepsRatings_advance {number : Nat} {call : Call} {workerProfileId : Nat}
    {others : List Review} (found : reviewed.calls[number]? = some call)
    (updated : call.phase = .updated workerProfileId others) :
    KeepsRatings reviewed (.advance number) ↔ others = reviewed.reviewsOf workerProfileId := by
  constructor
  · intro keeps
    exact keeps call workerProfileId others found updated
  · intro same stored profile reviews foundStored updatedStored
    rw [found, Option.some.injEq] at foundStored
    rw [← foundStored, updated, Phase.updated.injEq] at updatedStored
    rw [← updatedStored.1, ← updatedStored.2]
    exact same

/-- A call about to commit, in an invariant state. -/
theorem isOlder_of_found (rated : Rated reviewed) {number : Nat} {call : Call}
    (found : reviewed.calls[number]? = some call) : call.IsOlder reviewed :=
  rated.calls call (List.mem_of_getElem? found)

theorem matches_advance (rated : Rated reviewed) (number : Nat) :
    Matches (advance number reviewed) ↔ KeepsRatings reviewed (.advance number) := by
  cases found : reviewed.calls[number]? with
  | none =>
      have same : advance number reviewed = reviewed := by
        simp only [advance, found]
      rw [same]
      refine iff_of_true rated.matched fun call _ _ stored => ?_
      rw [found] at stored
      cases stored
  | some call =>
      by_cases updates : ∃ workerProfileId others, call.phase = .updated workerProfileId others
      · obtain ⟨workerProfileId, others, updated⟩ := updates
        have older := isOlder_of_found rated found
        rw [advance_of_updated found updated, keepsRatings_advance found updated]
        exact matches_commit rated.matched
          (older.older workerProfileId others (by rw [updated]; rfl))
          (older.few workerProfileId others updated)
      · push Not at updates
        rw [advance_of_not_updated found updates]
        refine iff_of_true rated.matched fun stored profile others foundStored updated => ?_
        rw [found, Option.some.injEq] at foundStored
        rw [← foundStored] at updated
        exact absurd updated (updates profile others)

theorem rated_advance (rated : Rated reviewed) {number : Nat}
    (keeps : KeepsRatings reviewed (.advance number)) : Rated (advance number reviewed) := by
  have matched := (matches_advance rated number).mpr keeps
  cases found : reviewed.calls[number]? with
  | none =>
      have same : advance number reviewed = reviewed := by
        simp only [advance, found]
      rw [same]
      exact rated
  | some call =>
      by_cases updates : ∃ workerProfileId others, call.phase = .updated workerProfileId others
      · obtain ⟨workerProfileId, others, updated⟩ := updates
        rw [advance_of_updated found updated] at matched ⊢
        exact rated_commit rated matched
      · push Not at updates
        rw [advance_of_not_updated found updates]
        refine rated_setPhase rated fun old stored => ?_
        rw [found, Option.some.injEq] at stored
        rw [← stored]
        exact next_isOlder (isOlder_of_found rated found)

theorem free_of_deletes? {targetUserId actorUserId : UserId} {user : User}
    (deletes : deletes? reviewed targetUserId actorUserId = some user) :
    ∀ call ∈ reviewed.calls, call.holds reviewed user.id = false := by
  have free := (Option.filter_eq_some_iff.mp deletes).2
  rw [Bool.not_eq_true', List.any_eq_false] at free
  intro call member
  simpa using free call member

theorem step_matches (rated : Rated reviewed) (step : ReviewStep) :
    Matches (reviewing.step reviewed step) ↔ KeepsRatings reviewed step := by
  cases step with
  | operation other =>
      exact iff_of_true rated.matched trivial
  | call reviewerId dto =>
      exact iff_of_true rated.matched trivial
  | advance number =>
      exact matches_advance rated number
  | fail number =>
      exact iff_of_true rated.matched trivial
  | deleteUser targetUserId actorUserId =>
      simp only [reviewing, ReviewStep.perform, KeepsRatings]
      cases deletes : deletes? reviewed targetUserId actorUserId with
      | none =>
          exact iff_of_true rated.matched fun _ none => by cases none
      | some user =>
          simpa using matches_cascaded rated.matched

theorem step_rated (rated : Rated reviewed) {step : ReviewStep}
    (keeps : KeepsRatings reviewed step) : Rated (reviewing.step reviewed step) := by
  cases step with
  | operation other =>
      exact ⟨rated.matched, fun call member =>
        @isOlder_congr reviewed _ _ (fun _ _ _ => List.suffix_rfl) (rated.calls call member)⟩
  | call reviewerId dto =>
      refine ⟨rated.matched, fun call member => ?_⟩
      rcases List.mem_append.mp member with before | new
      · exact @isOlder_congr reviewed _ _ (fun _ _ _ => List.suffix_rfl)
          (rated.calls call before)
      · rw [List.mem_singleton.mp new]
        exact isOlder_of_aggregate?_eq_none rfl
  | advance number =>
      exact rated_advance rated keeps
  | fail number =>
      exact rated_setPhase rated fun old _ => isOlder_of_aggregate?_eq_none rfl
  | deleteUser targetUserId actorUserId =>
      simp only [reviewing, ReviewStep.perform]
      cases deletes : deletes? reviewed targetUserId actorUserId with
      | none =>
          exact rated
      | some user =>
          exact rated_cascaded rated (free_of_deletes? deletes) (keeps user deletes)

theorem rated_initial (market : Marketplace) : Rated (.initial market) := by
  refine ⟨fun workerProfileId => default_describes, fun call member => ?_⟩
  cases member

/-- In a run the ratings are right after every step exactly if no step stores a review
over an old aggregate and none deletes a review alone. -/
theorem ratings_match_iff (market : Marketplace) (steps : List ReviewStep) :
    reviewing.Along (fun reviewed step => Matches (reviewing.step reviewed step))
        (.initial market) steps ↔
      reviewing.Along KeepsRatings (.initial market) steps :=
  @Machine.along_iff_along _ _ reviewing Rated _ _ (fun _ step rated => step_matches rated step)
    (fun _ _ rated keeps => step_rated rated keeps) _ (rated_initial market) steps

/-! ## Two reviews at once, and a client who leaves -/

/-- The client of the sample has a second request, which the worker offers to do. -/
def twoRequests : Marketplace :=
  { sampleMarketplace with
    requests := sampleMarketplace.requests.insert fun id =>
      { id := id
        customerId := 0
        categoryId := 0
        title := "Paint a door"
        description := "The front door"
        status := .open
        selectedProposalId := none
        expiresAt := 1000 }
    proposals := sampleMarketplace.proposals.insert fun id =>
      { id := id
        requestId := 1
        providerId := 1
        price := 1000
        comment := none
        status := .submitted
        price_le := samplePrice_le } }

/-- Both jobs are selected, paid and done, and both reviews are called for. -/
def twoCalls : List ReviewStep :=
  [.operation (.selectProposal samplePolicy 0 0 0 none 1),
    .operation (.selectProposal samplePolicy 1 1 0 none 1),
    .operation (.payIntent 0 0 ⟨none⟩ (sampleAnswer .succeeded "first") 2),
    .operation (.payIntent 1 0 ⟨none⟩ (sampleAnswer .succeeded "second") 2)] ++
  [0, 1].flatMap (fun jobId => [JobStatus.accepted, .inProgress, .completed].map fun status =>
    .operation (.updateStatus jobId 1 ⟨status, none⟩ 3)) ++
  [.call 0 ⟨0, ⟨5, by decide, by decide⟩, none⟩, .call 0 ⟨1, ⟨4, by decide, by decide⟩, none⟩]

/-- In one run both take their aggregate before one of them commits; in the other the first
review is stored, and then its reviewer deleted. -/
theorem ratings_differ :
    ¬ Matches (reviewing.run (.initial twoRequests)
        (twoCalls ++ [0, 1, 0, 1, 0, 1, 0, 1, 0, 0, 1, 1].map ReviewStep.advance)) ∧
      ¬ Matches (reviewing.run (.initial twoRequests)
        (twoCalls ++ List.replicate 6 (ReviewStep.advance 0) ++ [.deleteUser 0 2])) := by
  constructor
  · intro right
    have count := (right 0).count
    revert count
    decide +kernel
  · intro right
    have count := (right 0).count
    revert count
    decide +kernel

end Tchuno.Reviews
