import Tchuno.Library.CodeUnits
import Tchuno.Library.Ranking
import Tchuno.Web.LocationMatch

/-!
# Recommended workers

`buildRequestWorkerRecommendations` chooses a pool of workers, from the nearest stage which
is not empty, sorts it by six keys and shows the first six.
-/

namespace Tchuno.Web

open Tchuno.Library Tchuno.Library.Ecma

/-! ## The data -/

structure WorkerProfileCategory where
  id : String
  slug : String

/-- The part of a profile that recommendations read; `ratingAvg` is the number that the
text stands for, and the empty text none. -/
structure WorkerProfile where
  id : String
  userId : String
  bio : Option JsString
  location : Option String
  experienceYears : ℚ
  isAvailable : Bool
  ratingAvg : Option ℚ
  ratingCount : ℚ
  categories : List WorkerProfileCategory

structure RequestProposal where
  providerId : String

structure ServiceRequest where
  categoryId : String
  category : Option WorkerProfileCategory
  location : Option String
  proposals : Option (List RequestProposal)

end Tchuno.Web
