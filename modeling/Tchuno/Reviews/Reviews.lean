import Tchuno.AdminOps.Deletion
import Tchuno.Library.Doubles
import Tchuno.Payments.Operation

/-!
# Reviews

A client reviews a completed job once.  The transaction which stores the review takes the
aggregate of all reviews of the worker profile and writes it to the profile.  Transactions
are READ COMMITTED: the aggregate is over what others have committed and the own review.
-/

namespace Tchuno.Reviews

open Tchuno.Library Tchuno.Library.Ecma Tchuno.Payments Tchuno.AdminOps

/-! ## Rows -/

/-- An integer from one to five. -/
structure Rating where
  value : ℕ
  least : 1 ≤ value
  most : value ≤ 5
  deriving DecidableEq

structure CreateReviewDto where
  jobId : JobId
  rating : Rating
  comment : Option String

structure Review where
  id : Nat
  jobId : JobId
  workerProfileId : Nat
  reviewerId : UserId
  rating : Rating
  comment : Option String
  deriving DecidableEq

instance : Keyed Review := ⟨Review.id⟩

/-- Two columns of a worker profile. -/
structure ProfileRating where
  ratingAvg : ℚ
  ratingCount : ℕ
  deriving DecidableEq

/-- Both columns have the default zero. -/
def ProfileRating.default : ProfileRating := ⟨0, 0⟩

/-! ## Calls -/

/-- How far a call of `create` has come.  From the insertion on it is in a transaction,
where nobody else sees its review. -/
inductive Phase where
  | called
  | found (job : Job)
  | accepted (workerProfileId : Nat)
  | inserted (workerProfileId : Nat)
  | aggregated (workerProfileId : Nat) (others : List Review)
  | updated (workerProfileId : Nat) (others : List Review)
  | returned
  | failed (error : ApiError)

structure Call where
  reviewerId : UserId
  dto : CreateReviewDto
  phase : Phase

/-- The profile whose review the transaction of the call has inserted. -/
def Phase.inserted? : Phase → Option Nat
  | .inserted workerProfileId => some workerProfileId
  | .aggregated workerProfileId _ => some workerProfileId
  | .updated workerProfileId _ => some workerProfileId
  | _ => none

/-- The profile which the transaction of the call has updated, and so locked. -/
def Phase.updated? : Phase → Option Nat
  | .updated workerProfileId _ => some workerProfileId
  | _ => none

/-- A store with its reviews, the ratings of its profiles and the calls so far. -/
structure ReviewedStore where
  store : Store
  reviews : Table Review
  ratings : Nat → ProfileRating
  calls : List Call

def ReviewedStore.reviewsOf (reviewed : ReviewedStore) (workerProfileId : Nat) : List Review :=
  reviewed.reviews.findMany fun review => review.workerProfileId = workerProfileId

/-! ## Statements -/

def ratingValues (reviews : List Review) : List ℕ :=
  reviews.map fun review => review.rating.value

/-- `_avg`, which is null if there are no rows. -/
def average (ratings : List ℕ) : Option ℚ :=
  if ratings = [] then none else some (toDouble (ratings.sum / ratings.length))

def profileRating (ratings : List ℕ) : ProfileRating where
  ratingAvg := toFixed2 ((average ratings).getD 0)
  ratingCount := ratings.length

/-- The largest value of an integer column. -/
def integerMax : ℕ := 2147483647

section Statements

variable (call : Call) (reviewed : ReviewedStore)

def Call.findJob : Except ApiError Job := do
  let job ← orThrow (reviewed.store.jobs.find? call.dto.jobId) (.notFound "Job not found")
  guardThat (job.clientId = call.reviewerId) (.forbidden "Only the job client can review this job")
  guardThat (job.status = .completed) (.conflict "Only completed jobs can be reviewed")
  pure job

def isReviewed (jobId : JobId) : Bool :=
  (reviewed.reviews.findFirst? fun review => review.jobId = jobId).isSome

/-- The unique key and the foreign keys of the review. -/
def Call.insertable (workerProfileId : Nat) : Except ApiError Unit := do
  guardThat (isReviewed reviewed call.dto.jobId = false) (.database "P2002")
  guardThat ((reviewed.store.jobs.find? call.dto.jobId).isSome ∧
      (reviewed.store.market.workerProfiles.find? workerProfileId).isSome ∧
      (reviewed.store.market.users.find? call.reviewerId).isSome)
    (.database "P2003")

/-- What the aggregate is of: the others' reviews and the own. -/
def Call.ratings (others : List Review) : List ℕ :=
  call.dto.rating.value :: ratingValues others

def Call.updatable (workerProfileId : Nat) (others : List Review) : Except ApiError Unit := do
  guardThat ((reviewed.store.market.workerProfiles.find? workerProfileId).isSome)
    (.database "P2025")
  guardThat ((call.ratings others).length ≤ integerMax) (.database "P2020")

def Phase.orFail (phase : Phase) : Except ApiError Unit → Phase
  | .ok _ => phase
  | .error error => .failed error

/-- Some other transaction has inserted a review of the job. -/
def isInserting : Bool :=
  reviewed.calls.any fun other =>
    other.phase.inserted?.isSome && other.dto.jobId = call.dto.jobId

/-- Some other transaction has updated the profile. -/
def isUpdating (workerProfileId : Nat) : Bool :=
  reviewed.calls.any fun other => other.phase.updated? = some workerProfileId

/-- The next statement of a call; if it has to wait for another transaction, it stays
where it is.  A commit changes more than the phase. -/
def Call.next : Phase :=
  match call.phase with
  | .called =>
      match call.findJob reviewed with
      | .ok job => .found job
      | .error error => .failed error
  | .found job =>
      if isReviewed reviewed call.dto.jobId then
        .failed (.conflict "This job already has a review")
      else
        .accepted job.workerProfileId
  | .accepted workerProfileId =>
      if isInserting call reviewed then
        .accepted workerProfileId
      else
        Phase.orFail (.inserted workerProfileId) (call.insertable reviewed workerProfileId)
  | .inserted workerProfileId =>
      .aggregated workerProfileId (reviewed.reviewsOf workerProfileId)
  | .aggregated workerProfileId others =>
      if isUpdating reviewed workerProfileId then
        .aggregated workerProfileId others
      else
        Phase.orFail (.updated workerProfileId others)
          (call.updatable reviewed workerProfileId others)
  | .updated _ _ => .returned
  | .returned => .returned
  | .failed error => .failed error

def Call.review (workerProfileId id : Nat) : Review where
  id := id
  jobId := call.dto.jobId
  workerProfileId := workerProfileId
  reviewerId := call.reviewerId
  rating := call.dto.rating
  comment := truthy (call.dto.comment.map trim)

def Call.commit (workerProfileId : Nat) (others : List Review) : ReviewedStore :=
  { reviewed with
    reviews := reviewed.reviews.insert (call.review workerProfileId)
    ratings := Function.update reviewed.ratings workerProfileId
      (profileRating (call.ratings others)) }

end Statements

def ReviewedStore.setPhase (reviewed : ReviewedStore) (number : Nat) (phase : Phase) :
    ReviewedStore :=
  { reviewed with
    calls := reviewed.calls.modify number fun call => { call with phase := phase } }

def advance (number : Nat) (reviewed : ReviewedStore) : ReviewedStore :=
  match reviewed.calls[number]? with
  | none => reviewed
  | some call =>
      match call.phase with
      | .updated workerProfileId others =>
          (call.commit reviewed workerProfileId others).setPhase number .returned
      | _ => reviewed.setPhase number (call.next reviewed)

/-! ## Deletions -/

section Deletion

variable (reviewed : ReviewedStore) (userId : UserId)

def goesProfile (workerProfileId : Nat) : Bool :=
  reviewed.store.market.workerProfiles.leadsTo (goesWorkerProfile userId)
    (some workerProfileId)

/-- A review goes with its reviewer, its job and its worker profile. -/
def goesReview (jobId : JobId) (workerProfileId : Nat) (reviewerId : UserId) : Bool :=
  reviewerId = userId || reviewed.store.jobs.leadsTo (goesJob reviewed.store userId) (some jobId) ||
    goesProfile reviewed userId workerProfileId

def Review.goes (review : Review) : Bool :=
  goesReview reviewed userId review.jobId review.workerProfileId review.reviewerId

/-- The call has inserted a review which names rows that are to go. -/
def Call.holds (call : Call) : Bool :=
  call.phase.inserted?.any fun workerProfileId =>
    goesReview reviewed userId call.dto.jobId workerProfileId call.reviewerId

def cascadedReviews : ReviewedStore where
  store := cascadedStore reviewed.store userId
  reviews := reviewed.reviews.deleteMany fun review => review.goes reviewed userId
  ratings := fun workerProfileId =>
    if goesProfile reviewed userId workerProfileId then .default
    else reviewed.ratings workerProfileId
  calls := reviewed.calls

/-- The user whom `deleteUser` deletes; it waits for the transactions which have inserted
a review that would go. -/
def deletes? (targetUserId actorUserId : UserId) : Option User :=
  (deleteUserGate targetUserId actorUserId reviewed.store).toOption.filter fun user =>
    !reviewed.calls.any (Call.holds reviewed user.id)

end Deletion

/-! ## Runs -/

/-- One statement of one party, or one call of another service. -/
inductive ReviewStep where
  | operation (operation : Operation)
  | call (reviewerId : UserId) (dto : CreateReviewDto)
  | advance (number : Nat)
  | fail (number : Nat)
  | deleteUser (targetUserId actorUserId : UserId)

def ReviewStep.perform (reviewed : ReviewedStore) : ReviewStep → ReviewedStore
  | .operation other => { reviewed with store := other.perform reviewed.store }
  | .call reviewerId dto =>
      { reviewed with calls := reviewed.calls ++ [⟨reviewerId, dto, .called⟩] }
  | .advance number => Reviews.advance number reviewed
  | .fail number => reviewed.setPhase number (.failed (.database "P1017"))
  | .deleteUser targetUserId actorUserId =>
      match deletes? reviewed targetUserId actorUserId with
      | none => reviewed
      | some user => cascadedReviews reviewed user.id

/-- The store as a machine over the statements, in any order. -/
def reviewing : Machine ReviewedStore ReviewStep where
  step := ReviewStep.perform

/-- No reviews and no calls. -/
def ReviewedStore.initial (market : Marketplace) : ReviewedStore where
  store := .initial market
  reviews := .empty
  ratings := fun _ => .default
  calls := []

end Tchuno.Reviews
