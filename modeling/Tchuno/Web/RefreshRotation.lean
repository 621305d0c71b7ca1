import Tchuno.Auth.IssuedTokens
import Tchuno.Web.SingleFlight

/-!
# One page and the rotation of its refresh token

The API takes a refresh token which was used before for a stolen one and revokes the
session.  A page that refreshes once at a time never gives it this reason, as long as no
response to a refresh is lost on its way: the cookie it sends is always the newest token of
its session.
-/

namespace Tchuno.Web.Session

open Tchuno.Library Tchuno.Library.Ecma Tchuno.Auth

variable {Input Body Me Token Digest : Type}

/-! ## The refresh of a page -/

/-- The call an answer is for. -/
def Event.about : Event Input Body → Option Nat
  | .answer activity _ => some activity
  | .body activity _ => some activity
  | _ => none

/-- What a step does to the refresh when it is not about its request. -/
inductive Advances (before after : State Input Me) : Prop where
  | same (promise : after.refreshPromise = before.refreshPromise)
      (position : ∀ activity, before.refreshPromise = some activity →
        after.activities.get? activity = before.activities.get? activity)
  | started (activity : Nat) (call : FetchCall Input) (idle : before.refreshPromise = none)
      (promise : after.refreshPromise = some activity)
      (position : after.activities.get? activity = some (.requesting call))

section Advances

variable {settings : Settings Input Body Me} {state : State Input Me} {activity : Nat}

/-- A step which neither knows the promise nor moves its call. -/
theorem advances_of_eq {before after : State Input Me}
    (promise : after.refreshPromise = before.refreshPromise)
    (position : after.activities = before.activities) : Advances before after :=
  .same promise fun _ _ => position ▸ rfl

theorem Advances.after_eq {before middle after : State Input Me}
    (advances : Advances middle after) (promise : middle.refreshPromise = before.refreshPromise)
    (position : middle.activities.get? = before.activities.get?) : Advances before after := by
  cases advances with
  | same kept unmoved =>
      refine .same (kept.trans promise) fun activity underWay => ?_
      rw [unmoved activity (promise.trans underWay), position]
  | started activity call idle opened requesting =>
      exact .started activity call (promise ▸ idle) opened requesting

theorem advances_wait (apart : state.refreshPromise ≠ some activity)
    (position : Activity Input) : Advances state (state.wait activity position) := by
  refine .same rfl fun promise underWay => ?_
  have different : promise ≠ activity := fun same => apart (same ▸ underWay)
  rw [get?_wait, if_neg fun same => different same.1]

theorem advances_finish (apart : state.refreshPromise ≠ some activity)
    (outcome : Outcome Me) : Advances state (state.finish activity outcome) := by
  refine .same rfl fun promise underWay => ?_
  have different : promise ≠ activity := fun same => apart (same ▸ underWay)
  rw [get?_finish, if_neg fun same => different same.1]

theorem Advances.fetch {before after : State Input Me} (advances : Advances before after)
    (activity : Nat) (input : Input) (accessToken : Option String) :
    Advances before (Session.fetch settings after activity input accessToken) := by
  cases advances with
  | same promise position =>
      exact .same promise position
  | started found call idle promise position =>
      exact .started found call idle promise position

theorem advances_apiFetch (apart : state.refreshPromise ≠ some activity)
    (call : FetchCall Input) (accessToken : Option String) :
    Advances state (apiFetch settings state activity call accessToken) :=
  (advances_wait apart _).fetch _ _ _

theorem advances_join (given : activity < state.activities.next)
    (apart : state.refreshPromise ≠ some activity) (position : Activity Input) :
    Advances state ((refreshSession settings state).1.wait activity position) := by
  cases underWay : state.refreshPromise with
  | some promise =>
      rw [refreshSession_of_some underWay]
      exact advances_wait apart position
  | none =>
      rw [refreshSession_of_none underWay]
      have different : state.activities.next ≠ activity := given.ne'
      refine .started state.activities.next (refreshCall settings state) underWay rfl ?_
      rw [get?_wait, if_neg fun same => different same.1, get?_startRefresh, if_pos rfl]

theorem advances_ensureByRefresh (given : activity < state.activities.next)
    (apart : state.refreshPromise ≠ some activity) :
    Advances state (ensureByRefresh settings state activity) := by
  unfold ensureByRefresh
  split_ifs
  · exact advances_join given apart _
  · exact (@advances_finish _ _ state.clearTokens _ apart _).after_eq rfl rfl

theorem advances_ensureSession (given : activity < state.activities.next)
    (apart : state.refreshPromise ≠ some activity) :
    Advances state (ensureSession settings state activity) := by
  unfold ensureSession
  split_ifs
  · exact advances_apiFetch apart _ _
  · exact advances_ensureByRefresh given apart

theorem advances_autoRefresh (given : activity < state.activities.next)
    (apart : state.refreshPromise ≠ some activity) :
    Advances state (autoRefresh settings state activity) := by
  unfold autoRefresh
  split_ifs
  · exact advances_join given apart _
  · exact advances_finish apart _

theorem advances_raise (given : activity < state.activities.next)
    (apart : state.refreshPromise ≠ some activity) {caller : Caller}
    (other : caller ≠ .refresh) : Advances state (raise settings state activity caller) := by
  cases caller with
  | page =>
      exact advances_finish apart _
  | refresh =>
      exact absurd rfl other
  | check =>
      exact advances_ensureByRefresh given apart
  | load auth =>
      exact (@advances_finish _ _ state.clearTokens _ apart _).after_eq rfl rfl

theorem advances_respond (apart : state.refreshPromise ≠ some activity) {caller : Caller}
    (other : caller ≠ .refresh) (status : Nat) :
    Advances state (respond state activity caller status) := by
  cases caller with
  | page =>
      exact advances_finish apart _
  | refresh =>
      exact absurd rfl other
  | check =>
      exact advances_wait apart _
  | load auth =>
      exact advances_wait apart _

theorem advances_readBody (given : activity < state.activities.next)
    (apart : state.refreshPromise ≠ some activity) {caller : Caller}
    (other : caller ≠ .refresh) (status : Nat) (body : Option Body) :
    Advances state (readBody settings state activity caller status body) := by
  unfold readBody
  cases body.filter fun _ => isOk status with
  | none =>
      exact advances_raise given apart other
  | some body =>
      cases caller with
      | page =>
          exact advances_of_eq rfl rfl
      | refresh =>
          exact absurd rfl other
      | check =>
          cases state.currentAuth with
          | none =>
              exact advances_raise given apart other
          | some current =>
              exact advances_finish apart _
      | load auth =>
          exact advances_finish apart _

namespace Coherent

/-- Whoever has another number than the promise works for another caller. -/
theorem other_of_apart (coherent : Coherent settings state)
    (apart : state.refreshPromise ≠ some activity) {position : Activity Input}
    {caller : Caller} (running : state.activities.get? activity = some position)
    (works : position.caller? = some caller) : caller ≠ .refresh :=
  fun refresh => apart ((coherent.owner running works).mp refresh)

theorem advances_answered (coherent : Coherent settings state)
    (apart : state.refreshPromise ≠ some activity) (status : Option Nat) :
    Advances state (Session.answered settings state activity status) := by
  unfold Session.answered
  cases running : state.activities.get? activity with
  | none =>
      exact advances_of_eq rfl rfl
  | some position =>
      have given := Pool.lt_next_of_get? running
      cases position with
      | requesting call =>
          have other := coherent.other_of_apart apart running rfl
          cases status with
          | none =>
              exact advances_raise given apart other
          | some status =>
              dsimp only
              split_ifs
              · exact advances_respond apart other status
              · exact advances_join given apart _
      | repeating call =>
          have other := coherent.other_of_apart apart running rfl
          cases status with
          | none =>
              exact advances_raise given apart other
          | some status =>
              exact advances_respond apart other status
      | _ =>
          exact advances_of_eq rfl rfl

theorem advances_bodyRead (coherent : Coherent settings state)
    (apart : state.refreshPromise ≠ some activity) (body : Option Body) :
    Advances state (Session.bodyRead settings state activity body) := by
  unfold Session.bodyRead
  cases running : state.activities.get? activity with
  | none =>
      exact advances_of_eq rfl rfl
  | some position =>
      cases position with
      | reading caller status =>
          exact advances_readBody (Pool.lt_next_of_get? running) apart
            (coherent.other_of_apart apart running rfl) status body
      | _ =>
          exact advances_of_eq rfl rfl

theorem advances_resumed (coherent : Coherent settings state) (activity : Nat) :
    Advances state (Session.resumed settings state activity) := by
  unfold Session.resumed
  cases running : state.activities.get? activity with
  | none =>
      exact advances_of_eq rfl rfl
  | some position =>
      dsimp only
      cases position.promise?.bind state.settled with
      | none =>
          exact advances_of_eq rfl rfl
      | some result =>
          have form := coherent.form activity position running
          cases position with
          | renewing call status awaited =>
              have other := form.renewing_other
              have apart : state.refreshPromise ≠ some activity :=
                fun same => other ((coherent.owner running rfl).mpr same)
              simp only [resumeWith]
              cases truthy (result.bind AuthResponse.accessToken) with
              | none =>
                  exact advances_respond apart other status
              | some accessToken =>
                  exact (advances_wait apart _).fetch _ _ _
          | ensuring awaited =>
              have apart := coherent.apart running (Option.some_ne_none _).symm
              cases result with
              | none =>
                  exact (@advances_finish _ _ state.clearTokens _ apart _).after_eq rfl rfl
              | some auth =>
                  exact advances_apiFetch apart _ _
          | ticking awaited =>
              exact advances_finish (coherent.apart running (Option.some_ne_none _).symm) _
          | _ =>
              exact advances_of_eq rfl rfl

theorem advances_step (coherent : Coherent settings state) (event : Event Input Body)
    (apart : ∀ activity, event.about = some activity →
      state.refreshPromise ≠ some activity) :
    Advances state (Session.step settings state event) := by
  have given : state.activities.next < state.reserve.activities.next := Nat.lt_succ_self _
  have fresh : state.reserve.refreshPromise ≠ some state.activities.next :=
    fun underWay => (coherent.lt_next underWay).ne rfl
  cases event with
  | apiFetch input accessToken retryOnUnauthorized =>
      exact (advances_apiFetch fresh _ _).after_eq rfl rfl
  | ensureSession =>
      exact (advances_ensureSession given fresh).after_eq rfl rfl
  | autoRefresh =>
      exact (advances_autoRefresh given fresh).after_eq rfl rfl
  | answer activity status =>
      exact coherent.advances_answered (apart activity rfl) status
  | body activity body =>
      exact coherent.advances_bodyRead (apart activity rfl) body
  | resume activity =>
      exact coherent.advances_resumed activity
  | _ =>
      exact advances_of_eq rfl rfl

/-- The status of its response ends the refresh, or leaves the body to be read. -/
theorem answered_refresh (coherent : Coherent settings state)
    (underWay : state.refreshPromise = some activity) {call : FetchCall Input}
    (running : state.activities.get? activity = some (.requesting call))
    (status : Option Nat) :
    (Session.answered settings state activity status).refreshPromise = none ∨
      (Session.answered settings state activity status).refreshPromise = some activity ∧
        ∃ received,
          (Session.answered settings state activity status).activities.get? activity =
            some (.reading .refresh received) := by
  have refresh := (coherent.owner running rfl).mpr underWay
  have form := (coherent.form activity _ running).2 (congrArg some refresh)
  have once : call.retryOnUnauthorized = false ∧ call.caller = .refresh := by
    simp_all
  cases status with
  | none =>
      left
      simp only [Session.answered, running, once.2]
      rfl
  | some status =>
      simp only [Session.answered, running, once, or_true, if_true, Session.respond]
      split_ifs
      · exact .inl rfl
      · exact .inr ⟨underWay, status, Pool.get?_set_self (coherent.lt_next underWay) _⟩

/-- The body of its response ends the refresh. -/
theorem bodyRead_refresh {status : Nat}
    (running : state.activities.get? activity = some (.reading .refresh status))
    (body : Option Body) :
    (Session.bodyRead settings state activity body).refreshPromise = none := by
  simp only [Session.bodyRead, running, Session.readBody]
  cases body.filter fun _ => isOk status with
  | none =>
      rfl
  | some body =>
      rfl

end Coherent

end Advances

/-! ## The browser and the API -/

/-- Where the request to refresh has got to. -/
inductive Stage (Token : Type) where
  | idle
  /-- on its way to the API, with this cookie -/
  | sent (cookie : Option Token)
  /-- handled, with the response on its way back -/
  | served (result : Except AuthError (AuthReply Token))
  /-- received, and its body is being read -/
  | reading

/-- One page, the cookie of its browser, and the API with the tokens it has set for the
browser after a sign-in. -/
structure Browser (Input Me Token Digest : Type) where
  page : State Input Me
  cookie : Option Token
  stage : Stage Token
  offers : List Token
  database : Database Token Digest

/-- What may happen next. -/
inductive Happening (Input Body Token : Type) where
  /-- the page takes a step which is not about the request to refresh -/
  | page (event : Event Input Body)
  | serve (clientInfo : Option SessionClientInfo) (draws : Draws) (now : Auth.Time)
  /-- the response to the request arrives, with its `Set-Cookie` -/
  | deliver
  | read (body : Option Body)
  /-- the request or its response is lost; some proxy may have answered -/
  | fail (status : Option Nat)
  /-- a registration or a login of this browser -/
  | signIn (call : AuthCall Token)
  /-- the response to a sign-in arrives -/
  | accept (token : Token)
  /-- the cookie is cleared or expires -/
  | clear
  /-- a call of another client -/
  | foreign (call : AuthCall Token)
  | reload (marker : Bool)

def errorStatus : AuthError → Nat
  | .unauthorized _ => 401
  | .conflict _ => 409
  | .notFound _ => 404
  | .badRequest _ => 400
  | .forbidden _ => 403
  | .database _ => 500

section System

variable [DecidableEq Token] [DecidableEq Digest] (settings : Settings Input Body Me)
  (crypto : Crypto Token Digest)

/-- The page gets the status of the response, if the request is still open. -/
def Browser.answer (browser : Browser Input Me Token Digest) (status : Option Nat) :
    Browser Input Me Token Digest :=
  match browser.page.refreshPromise with
  | none => browser
  | some promise =>
      let page := answered settings browser.page promise status
      { browser with
        page := page
        stage := if page.refreshPromise = none then .idle else .reading }

/-- The request as the API handles it; its body has no token. -/
def Browser.serve (browser : Browser Input Me Token Digest) (cookie : Option Token)
    (clientInfo : Option SessionClientInfo) (draws : Draws) (now : Auth.Time) :
    Browser Input Me Token Digest :=
  let call := AuthCall.refresh cookie clientInfo draws now
  match (call.procedure crypto).serve browser.database with
  | (some result, database) =>
      { browser with
        stage := .served result
        database := database }
  | (none, _) => browser

/-- `applyAuthCookies`, or `clearAuthCookies` after an error. -/
def Browser.deliver (browser : Browser Input Me Token Digest) :
    Except AuthError (AuthReply Token) → Browser Input Me Token Digest
  | .ok (.tokens response) =>
      Browser.answer settings { browser with cookie := some response.refreshToken } (some 200)
  | .ok _ => browser
  | .error error =>
      Browser.answer settings { browser with cookie := none } (some (errorStatus error))

/-- The API signs the browser in. -/
def Browser.signIn (browser : Browser Input Me Token Digest) (call : AuthCall Token) :
    Browser Input Me Token Digest :=
  match (call.procedure crypto).serve browser.database with
  | (some (.ok (.tokens response)), database) =>
      { browser with
        offers := response.refreshToken :: browser.offers
        database := database }
  | (_, database) => { browser with database := database }

/-- A step of the page; a new request to refresh takes the cookie along. -/
def Browser.advance (browser : Browser Input Me Token Digest) (event : Event Input Body) :
    Browser Input Me Token Digest :=
  let page := step settings browser.page event
  { browser with
    page := page
    stage :=
      if browser.page.refreshPromise = none ∧ page.refreshPromise ≠ none then
        .sent browser.cookie
      else
        browser.stage }

def Browser.step (browser : Browser Input Me Token Digest) :
    Happening Input Body Token → Browser Input Me Token Digest
  | .page event =>
      if event.about.isSome ∧ event.about = browser.page.refreshPromise then browser
      else browser.advance settings event
  | .serve clientInfo draws now =>
      match browser.stage with
      | .sent cookie => browser.serve crypto cookie clientInfo draws now
      | _ => browser
  | .deliver =>
      match browser.stage with
      | .served result => browser.deliver settings result
      | _ => browser
  | .read body =>
      match browser.stage, browser.page.refreshPromise with
      | .reading, some promise =>
          { browser with
            page := bodyRead settings browser.page promise body
            stage := .idle }
      | _, _ => browser
  | .fail status =>
      match browser.stage with
      | .sent _ => browser.answer settings status
      | .served _ => browser.answer settings status
      | _ => browser
  | .signIn call => browser.signIn crypto call
  | .accept token =>
      if token ∈ browser.offers then
        { browser with
          cookie := some token
          offers := browser.offers.erase token }
      else
        browser
  | .clear => { browser with cookie := none }
  | .foreign call => { browser with database := (accounts crypto).step browser.database call }
  | .reload marker =>
      { browser with
        page := State.initial marker browser.page.deviceId
        stage := .idle }

def browsing : Machine (Browser Input Me Token Digest) (Happening Input Body Token) where
  step := Browser.step settings crypto

end System

def Browser.initial (marker : Bool) (deviceId : Option String) :
    Browser Input Me Token Digest where
  page := State.initial marker deviceId
  cookie := none
  stage := .idle
  offers := []
  database := Database.initial Token Digest

/-! ## Conditions and properties -/

/-- The tokens which are not in the cookie or in an offer. -/
def Stage.tokens : Stage Token → List Token
  | .sent (some token) => [token]
  | .served (.ok (.tokens response)) => [response.refreshToken]
  | _ => []

/-- The API has renewed the token, and the browser does not know it yet. -/
def Stage.isRenewed : Stage Token → Bool
  | .served (.ok _) => true
  | _ => false

def Stage.isOpen : Stage Token → Bool
  | .sent _ => true
  | .served _ => true
  | _ => false

/-- The tokens of the browser. -/
def Browser.held (browser : Browser Input Me Token Digest) : List Token :=
  browser.cookie.toList ++ browser.stage.tokens ++ browser.offers

/-- The token that a call presents to be refreshed. -/
def presentedToken : AuthCall Token → Option Token
  | .refresh refreshToken _ _ _ => refreshToken
  | _ => none

/-- No response to a refresh is lost, and nobody else has a token of the browser. -/
def Calm (browser : Browser Input Me Token Digest) : Happening Input Body Token → Prop
  | .fail _ => browser.stage.isRenewed = false
  | .reload _ => browser.stage.isOpen = false
  | .signIn call => call.signsIn = true
  | .foreign call => ∀ token ∈ presentedToken call, token ∉ browser.held
  | _ => True

instance decidableCalm [DecidableEq Token] (browser : Browser Input Me Token Digest)
    (happening : Happening Input Body Token) : Decidable (Calm browser happening) := by
  cases happening <;> unfold Calm <;> infer_instance

/-- The API never takes the token of the browser for one that was used before, and accepts
it while the session is live and its user active. -/
def Trusted [DecidableEq Digest] (crypto : Crypto Token Digest)
    (browser : Browser Input Me Token Digest) : Happening Input Body Token → Prop
  | .serve _ _ now => ∀ token payload, browser.stage = .sent (some token) →
      verifyRefreshToken crypto token now = some payload →
        (∀ session, browser.database.judge crypto token payload ≠ .reused session) ∧
          ∀ session user, browser.database.sessions.find? payload.sid = some session →
            session.isLive = true → browser.database.users.find? session.userId = some user →
              user.isActive = true →
                browser.database.judge crypto token payload = .accepted session user
  | _ => True

/-! ## Newest tokens -/

/-- The session that a token was issued for. -/
def sessionOf (crypto : Crypto Token Digest) (token : Token) : Option SessionId :=
  (crypto.decode .refresh token).bind Claims.sid

/-- The token was the last to be issued for its session. -/
def IsNewest (database : Database Token Digest) (token : Token) : Prop :=
  ∃ sessionId older, database.issuedFor sessionId = token :: older

section Newest

variable {crypto : Crypto Token Digest} {database after : Database Token Digest}
  {call : AuthCall Token} {result : Except AuthError (AuthReply Token)}
  {token : Token} {older : List Token} {sessionId : SessionId}

theorem sessionOf_of_issued (sound : crypto.Sound) (linked : database.Linked crypto)
    (issued : token ∈ database.issuedFor sessionId) :
    sessionOf crypto token = some sessionId := by
  obtain ⟨session, _, sameId, user, jti, now, _, signed⟩ :=
    linked.signed _ (mem_issued_of_issuedFor issued)
  change token = _ at signed
  rw [sessionOf, signed, sound.decode_sign]
  exact congrArg some sameId

/-- Only a call which presents the newest token of a session adds to its tokens. -/
theorem issuedFor_kept (issues : Issues database call result after)
    (newest : database.issuedFor sessionId = token :: older)
    (other : token ∉ presentedToken call) :
    after.issuedFor sessionId = token :: older := by
  cases issues with
  | nothing same returned =>
      rw [issuedFor_of_same same, newest]
  | opened signsIn fresh issued =>
      rw [issuedFor_of_issued issued, if_neg, newest]
      rintro rfl
      rw [newest] at fresh
      cases fresh
  | renewed presented issued =>
      rw [issuedFor_of_issued issued, if_neg, newest]
      rintro rfl
      rw [newest] at presented
      cases presented
      exact other rfl

theorem IsNewest.kept (newest : IsNewest database token)
    (issues : Issues database call result after) (other : token ∉ presentedToken call) :
    IsNewest after token := by
  obtain ⟨sessionId, older, issued⟩ := newest
  exact ⟨sessionId, older, issuedFor_kept issues issued other⟩

theorem IsNewest.of_same (newest : IsNewest database token)
    (same : after.issued = database.issued) : IsNewest after token := by
  obtain ⟨sessionId, older, issued⟩ := newest
  exact ⟨sessionId, older, (issuedFor_of_same same sessionId).trans issued⟩

/-- The newest token of a session passes for what it is. -/
theorem trusted_of_newest [DecidableEq Digest] (sound : crypto.Sound)
    (linked : database.Linked crypto) (newest : IsNewest database token)
    {payload : RefreshTokenPayload} {now : Auth.Time}
    (valid : verifyRefreshToken crypto token now = some payload) :
    (∀ session, database.judge crypto token payload ≠ .reused session) ∧
      ∀ session user, database.sessions.find? payload.sid = some session →
        session.isLive = true → database.users.find? session.userId = some user →
          user.isActive = true →
            database.judge crypto token payload = .accepted session user := by
  obtain ⟨sessionId, older, issued⟩ := newest
  have present : token ∈ database.issuedFor sessionId := by
    rw [issued]
    exact List.mem_cons_self
  obtain ⟨session, member, sameId, _⟩ :=
    linked.signed _ (mem_issued_of_issuedFor present)
  change session.id = sessionId at sameId
  have found : database.sessions.find? sessionId = some session :=
    database.sessions.find?_eq_some_iff.mpr ⟨member, sameId⟩
  obtain ⟨claims, decoded, early, _⟩ := verifyRefreshToken_eq_some.mp valid
  have verified := verify_of_issued sound linked present ⟨claims, decoded, early⟩ found
  obtain rfl := Option.some.inj (valid.symm.trans verified)
  have digest : crypto.sha256 token = session.refreshTokenHash := by
    rcases linked.digest session member with ⟨last, others, last_issued, stored⟩ | ⟨none, _⟩
    · change database.issuedFor session.id = _ at last_issued
      rw [sameId, issued] at last_issued
      cases last_issued
      exact stored.symm
    · rw [sameId, issued] at none
      cases none
  constructor
  · intro other
    simp only [Database.judge, found]
    cases session.isLive with
    | false =>
        simp
    | true =>
        cases database.users.find? session.userId with
        | none =>
            simp
        | some user =>
            by_cases active : user.isActive = true <;> simp [digest, sameId, active]
  · intro row user stored live owner active
    obtain rfl := Option.some.inj (found.symm.trans stored)
    simp only [Database.judge, found, live, owner, active, digest]
    simp [sameId]

end Newest

/-! ## The invariant -/

/-- The request to refresh is where the page takes it to be. -/
def Stage.Matches (stage : Stage Token) (page : State Input Me) : Prop :=
  match stage with
  | .idle => page.refreshPromise = none
  | .reading => ∃ promise status, page.refreshPromise = some promise ∧
      page.activities.get? promise = some (.reading .refresh status)
  | _ => ∃ promise call, page.refreshPromise = some promise ∧
      page.activities.get? promise = some (.requesting call)

/-- What a quiet browser and the API keep to. -/
structure Browser.Sound (settings : Settings Input Body Me) (crypto : Crypto Token Digest)
    (browser : Browser Input Me Token Digest) : Prop where
  coherent : Coherent settings browser.page
  linked : browser.database.Linked crypto
  stage : browser.stage.Matches browser.page
  /-- the cookie is out of date only while its renewal is on its way -/
  cookie : ∀ token ∈ browser.cookie, IsNewest browser.database token ∨
    ∃ response sessionId older, browser.stage = .served (.ok (.tokens response)) ∧
      browser.database.issuedFor sessionId = response.refreshToken :: token :: older
  tokens : ∀ token ∈ browser.stage.tokens, IsNewest browser.database token
  offers : ∀ token ∈ browser.offers, IsNewest browser.database token
  distinct : (browser.offers.map (sessionOf crypto)).Nodup
  /-- an offer is for a session of its own -/
  apart : ∀ offer ∈ browser.offers, ∀ token, token ∈ browser.cookie ∨
    token ∈ browser.stage.tokens → sessionOf crypto token ≠ sessionOf crypto offer

section Steps

variable {settings : Settings Input Body Me}
  {crypto : Crypto Token Digest} {browser : Browser Input Me Token Digest}

/-- What the tokens of a page keep to once its request is answered. -/
structure Browser.Settled (crypto : Crypto Token Digest)
    (browser : Browser Input Me Token Digest) : Prop where
  cookie : ∀ token ∈ browser.cookie, IsNewest browser.database token
  offers : ∀ token ∈ browser.offers, IsNewest browser.database token
  distinct : (browser.offers.map (sessionOf crypto)).Nodup
  apart : ∀ offer ∈ browser.offers, ∀ token ∈ browser.cookie,
    sessionOf crypto token ≠ sessionOf crypto offer

theorem Browser.Settled.sound (settled : browser.Settled crypto)
    (coherent : Coherent settings browser.page) (linked : browser.database.Linked crypto)
    (stage : browser.stage.Matches browser.page) (none : browser.stage.tokens = []) :
    browser.Sound settings crypto where
  coherent := coherent
  linked := linked
  stage := stage
  cookie token held := .inl (settled.cookie token held)
  tokens token member := by
    rw [none] at member
    cases member
  offers := settled.offers
  distinct := settled.distinct
  apart offer offered token held := by
    rw [none] at held
    exact settled.apart offer offered token (held.resolve_right nofun)

/-- The page gets the status of the response. -/
theorem Browser.Settled.answer (settled : browser.Settled crypto)
    (coherent : Coherent settings browser.page) (linked : browser.database.Linked crypto)
    {promise : Nat} {call : FetchCall Input}
    (underWay : browser.page.refreshPromise = some promise)
    (requesting : browser.page.activities.get? promise = some (.requesting call))
    (status : Option Nat) : (browser.answer settings status).Sound settings crypto := by
  have page := coherent.answered promise status
  have shape : browser.answer settings status =
      { browser with
        page := answered settings browser.page promise status
        stage :=
          if (answered settings browser.page promise status).refreshPromise = none then .idle
          else .reading } := by
    simp only [Browser.answer, underWay]
  have kept : ({ browser with
      page := answered settings browser.page promise status
      stage :=
        if (answered settings browser.page promise status).refreshPromise = none then .idle
        else .reading } : Browser Input Me Token Digest).Settled crypto :=
    ⟨settled.cookie, settled.offers, settled.distinct, settled.apart⟩
  rw [shape]
  rcases coherent.answered_refresh underWay requesting status with
    idle | ⟨opened, received, reading⟩
  · refine kept.sound page linked ?_ ?_
    · rw [if_pos idle]
      exact idle
    · rw [if_pos idle]
      rfl
  · have busy : (answered settings browser.page promise status).refreshPromise ≠ none := by
      rw [opened]
      exact nofun
    refine kept.sound page linked ?_ ?_
    · rw [if_neg busy]
      exact ⟨promise, received, opened, reading⟩
    · rw [if_neg busy]
      rfl

theorem mem_cookie_of_sent {cookie : Option Token} {token : Token}
    (member : token ∈ (Stage.sent cookie).tokens) : token ∈ cookie := by
  cases cookie with
  | none =>
      cases member
  | some carried =>
      exact congrArg some (List.mem_singleton.mp member).symm

/-- A request which the page does not touch stays where it is. -/
theorem Stage.Matches.of_same {stage : Stage Token} {before after : State Input Me}
    (matched : stage.Matches before) (promise : after.refreshPromise = before.refreshPromise)
    (position : ∀ activity, before.refreshPromise = some activity →
      after.activities.get? activity = before.activities.get? activity) :
    stage.Matches after := by
  cases stage with
  | idle =>
      exact promise.trans matched
  | reading =>
      obtain ⟨activity, status, underWay, reading⟩ := matched
      exact ⟨activity, status, promise.trans underWay,
        (position activity underWay).trans reading⟩
  | _ =>
      obtain ⟨activity, call, underWay, requesting⟩ := matched
      exact ⟨activity, call, promise.trans underWay,
        (position activity underWay).trans requesting⟩

theorem Stage.Matches.isRenewed_of_idle {stage : Stage Token} {page : State Input Me}
    (matched : stage.Matches page) (idle : page.refreshPromise = none) :
    stage.isRenewed = false := by
  cases stage with
  | served result =>
      obtain ⟨activity, _, underWay, _⟩ := matched
      rw [idle] at underWay
      cases underWay
  | _ =>
      rfl

namespace Browser.Sound

/-- As long as the API has not renewed the token, it is the newest. -/
theorem settled (sound : browser.Sound settings crypto)
    (unchanged : browser.stage.isRenewed = false) : browser.Settled crypto where
  cookie token held := by
    rcases sound.cookie token held with newest | ⟨response, _, _, served, _⟩
    · exact newest
    · rw [served] at unchanged
      cases unchanged
  offers := sound.offers
  distinct := sound.distinct
  apart offer offered token held := sound.apart offer offered token (.inl held)

/-- Every token of the browser was issued by the API. -/
theorem issued_of_held (sound : browser.Sound settings crypto) {token : Token}
    (held : token ∈ browser.held) :
    ∃ sessionId, token ∈ browser.database.issuedFor sessionId := by
  have newest : ∀ {found : Token}, IsNewest browser.database found →
      ∃ sessionId, found ∈ browser.database.issuedFor sessionId := by
    rintro found ⟨sessionId, older, issued⟩
    exact ⟨sessionId, issued ▸ List.mem_cons_self⟩
  simp only [Browser.held, List.mem_append, Option.mem_toList] at held
  rcases held with (cookie | carried) | offered
  · rcases sound.cookie token cookie with last | ⟨response, sessionId, older, _, renewed⟩
    · exact newest last
    · exact ⟨sessionId, renewed ▸ List.mem_cons_of_mem _ List.mem_cons_self⟩
  · exact newest (sound.tokens token carried)
  · exact newest (sound.offers token offered)

/-- A call which does not present a token of the browser changes none of them. -/
theorem database (sound : browser.Sound settings crypto) {call : AuthCall Token}
    {result : Except AuthError (AuthReply Token)} {after : Database Token Digest}
    (issues : Issues browser.database call result after) (linked : after.Linked crypto)
    (other : ∀ token ∈ presentedToken call, token ∉ browser.held) :
    Browser.Sound settings crypto { browser with database := after } := by
  have kept : ∀ token ∈ browser.held, token ∉ presentedToken call :=
    fun token held presented => other token presented held
  have carried : ∀ token ∈ browser.stage.tokens, token ∉ presentedToken call :=
    fun token member => kept token (by simp [Browser.held, member])
  refine ⟨sound.coherent, linked, sound.stage, ?_, ?_, ?_, sound.distinct, sound.apart⟩
  · intro token held
    rcases sound.cookie token held with newest | ⟨response, sessionId, older, served, renewed⟩
    · exact .inl (newest.kept issues (kept token (by
        have found : browser.cookie = some token := held
        simp [Browser.held, found])))
    · refine .inr ⟨response, sessionId, older, served, issuedFor_kept issues renewed ?_⟩
      refine carried _ ?_
      rw [served]
      exact List.mem_singleton_self _
  · exact fun token member => (sound.tokens token member).kept issues (carried token member)
  · intro token offered
    exact (sound.offers token offered).kept issues (kept token (by
      simp [Browser.held, offered]))

theorem advance (sound : browser.Sound settings crypto) (event : Event Input Body)
    (apart : ∀ activity, event.about = some activity →
      browser.page.refreshPromise ≠ some activity) :
    (browser.advance settings event).Sound settings crypto := by
  have coherent := sound.coherent.step event
  unfold Browser.advance
  dsimp only
  cases sound.coherent.advances_step event apart with
  | same promise position =>
      have unchanged : ¬ (browser.page.refreshPromise = none ∧
          (Session.step settings browser.page event).refreshPromise ≠ none) := by
        rintro ⟨idle, busy⟩
        exact busy (promise.trans idle)
      rw [if_neg unchanged]
      refine ⟨coherent, sound.linked, ?_, sound.cookie, sound.tokens, sound.offers,
        sound.distinct, sound.apart⟩
      exact sound.stage.of_same promise position
  | started activity call idle promise position =>
      have begins : browser.page.refreshPromise = none ∧
          (Session.step settings browser.page event).refreshPromise ≠ none := by
        rw [promise]
        exact ⟨idle, nofun⟩
      have settled := sound.settled (sound.stage.isRenewed_of_idle idle)
      rw [if_pos begins]
      refine ⟨coherent, sound.linked, ⟨activity, call, promise, position⟩,
        fun token held => .inl (settled.cookie token held), ?_, sound.offers, sound.distinct,
        ?_⟩
      · intro token member
        exact settled.cookie token (mem_cookie_of_sent member)
      · intro offer offered token held
        exact settled.apart offer offered token (held.elim id mem_cookie_of_sent)

/-- What serving a call leaves behind. -/
theorem served_call [DecidableEq Digest] (cryptoSound : crypto.Sound)
    (sound : browser.Sound settings crypto) (call : AuthCall Token) :
    ∃ result after, (call.procedure crypto).serve browser.database = (some result, after) ∧
      Issues browser.database call result after ∧ after.Linked crypto := by
  obtain ⟨result, served, issues⟩ := (issues_call cryptoSound sound.linked call).serve
  obtain ⟨_, _, effects⟩ := (@effects_call _ _ _ crypto browser.database call).serve
  exact ⟨result, _, Prod.ext served rfl, issues, effects.linked sound.linked⟩

theorem serve [DecidableEq Digest] (cryptoSound : crypto.Sound)
    (sound : browser.Sound settings crypto) {cookie : Option Token}
    (sent : browser.stage = .sent cookie) (clientInfo : Option SessionClientInfo)
    (draws : Draws) (now : Auth.Time) :
    (browser.serve crypto cookie clientInfo draws now).Sound settings crypto := by
  obtain ⟨result, after, served, issues, linked⟩ :=
    sound.served_call cryptoSound (.refresh cookie clientInfo draws now)
  have shape : browser.serve crypto cookie clientInfo draws now =
      { browser with
        stage := .served result
        database := after } := by
    simp only [Browser.serve, served]
  have stage : Stage.Matches (.served result) browser.page := by
    have matched := sound.stage
    rw [sent] at matched
    exact matched
  have settled := sound.settled (by rw [sent]; rfl)
  rw [shape]
  cases issues with
  | nothing same returned =>
      have noTokens : (Stage.served result).tokens = [] := by
        match result with
        | .ok (.tokens response) => exact absurd rfl (returned response)
        | .ok .done => rfl
        | .ok (.user _) => rfl
        | .error _ => rfl
      refine Browser.Settled.sound ⟨?_, ?_, settled.distinct, settled.apart⟩ sound.coherent
        linked stage noTokens
      · exact fun token held => (settled.cookie token held).of_same same
      · exact fun token offered => (settled.offers token offered).of_same same
  | opened signsIn fresh issued =>
      cases signsIn
  | @renewed token _ _ _ response _ sessionId older newest issued =>
      have carried : token ∈ browser.stage.tokens := by
        rw [sent]
        exact List.mem_singleton_self token
      have member : token ∈ browser.database.issuedFor sessionId := by
        rw [newest]
        exact List.mem_cons_self
      have renewed : after.issuedFor sessionId = response.refreshToken :: token :: older := by
        rw [issuedFor_of_issued issued, if_pos rfl, newest]
      have sameSession :
          sessionOf crypto response.refreshToken = sessionOf crypto token := by
        rw [sessionOf_of_issued cryptoSound sound.linked member]
        refine @sessionOf_of_issued _ _ _ _ _ sessionId cryptoSound linked ?_
        rw [renewed]
        exact List.mem_cons_self
      have issues : Issues browser.database (.refresh (some token) clientInfo draws now)
          (.ok (.tokens response)) after := .renewed newest issued
      refine ⟨sound.coherent, linked, stage, ?_, ?_, ?_, sound.distinct, ?_⟩
      · intro other held
        by_cases same : other = token
        · subst same
          exact .inr ⟨response, sessionId, older, rfl, renewed⟩
        · refine .inl ((settled.cookie other held).kept issues ?_)
          exact fun presented => same (Option.some.inj presented).symm
      · intro other served
        obtain rfl := List.mem_singleton.mp served
        exact ⟨sessionId, token :: older, renewed⟩
      · intro offer offered
        refine (sound.offers offer offered).kept issues fun presented => ?_
        have same : token = offer := Option.some.inj presented
        exact sound.apart offer offered token (.inr carried) (congrArg _ same)
      · intro offer offered other held
        rcases held with cookie | served
        · exact sound.apart offer offered other (.inl cookie)
        · obtain rfl := List.mem_singleton.mp served
          rw [sameSession]
          exact sound.apart offer offered token (.inr carried)

theorem deliver (sound : browser.Sound settings crypto)
    {result : Except AuthError (AuthReply Token)} (served : browser.stage = .served result) :
    (browser.deliver settings result).Sound settings crypto := by
  have matched := sound.stage
  rw [served] at matched
  obtain ⟨promise, call, underWay, requesting⟩ := matched
  match result with
  | .ok (.tokens response) =>
      have received : response.refreshToken ∈ browser.stage.tokens := by
        rw [served]
        exact List.mem_singleton_self _
      have stored : ({ browser with cookie := some response.refreshToken } :
          Browser Input Me Token Digest).Settled crypto := by
        refine ⟨fun token held => ?_, sound.offers, sound.distinct, ?_⟩
        · obtain rfl := Option.some.inj held
          exact sound.tokens _ received
        · intro offer offered token held
          obtain rfl := Option.some.inj held
          exact sound.apart offer offered _ (.inr received)
      exact stored.answer sound.coherent sound.linked underWay requesting _
  | .ok .done => exact sound
  | .ok (.user _) => exact sound
  | .error error =>
      have cleared : ({ browser with cookie := none } :
          Browser Input Me Token Digest).Settled crypto :=
        ⟨nofun, sound.offers, sound.distinct, fun _ _ _ => nofun⟩
      exact cleared.answer sound.coherent sound.linked underWay requesting _

/-- The request fails before the API has renewed the token. -/
theorem fail (sound : browser.Sound settings crypto) (isOpen : browser.stage.isOpen = true)
    (unchanged : browser.stage.isRenewed = false) (status : Option Nat) :
    (browser.answer settings status).Sound settings crypto := by
  have matched := sound.stage
  have settled := sound.settled unchanged
  cases stage : browser.stage with
  | idle =>
      rw [stage] at isOpen
      cases isOpen
  | reading =>
      rw [stage] at isOpen
      cases isOpen
  | _ =>
      rw [stage] at matched
      obtain ⟨promise, call, underWay, requesting⟩ := matched
      exact settled.answer sound.coherent sound.linked underWay requesting status

theorem signIn [DecidableEq Digest] (cryptoSound : crypto.Sound)
    (sound : browser.Sound settings crypto) {call : AuthCall Token}
    (signsIn : call.signsIn = true) :
    (browser.signIn crypto call).Sound settings crypto := by
  obtain ⟨result, after, served, issues, linked⟩ := sound.served_call cryptoSound call
  have silent : presentedToken call = none := by
    cases call <;> first | rfl | cases signsIn
  have kept := sound.database issues linked (by rw [silent]; exact nofun)
  cases issues with
  | nothing same returned =>
      have shape : browser.signIn crypto call = { browser with database := after } := by
        rw [Browser.signIn, served]
        match result with
        | .ok (.tokens response) => exact absurd rfl (returned response)
        | .ok .done => rfl
        | .ok (.user _) => rfl
        | .error _ => rfl
      rw [shape]
      exact kept
  | @opened _ response _ sessionId _ fresh issued =>
      have shape : browser.signIn crypto call =
          { browser with
            offers := response.refreshToken :: browser.offers
            database := after } := by
        rw [Browser.signIn, served]
      have only : after.issuedFor sessionId = [response.refreshToken] := by
        rw [issuedFor_of_issued issued, if_pos rfl, fresh]
      have session : sessionOf crypto response.refreshToken = some sessionId := by
        refine sessionOf_of_issued cryptoSound linked ?_
        rw [only]
        exact List.mem_singleton_self _
      -- the session is new, so no token of the browser is for it
      have foreign : ∀ token, token ∈ browser.held →
          sessionOf crypto token ≠ sessionOf crypto response.refreshToken := by
        intro token held same
        obtain ⟨other, issuedOther⟩ := sound.issued_of_held held
        have own := sessionOf_of_issued cryptoSound sound.linked issuedOther
        rw [same, session] at own
        rw [← Option.some.inj own, fresh] at issuedOther
        cases issuedOther
      rw [shape]
      refine ⟨kept.coherent, linked, kept.stage, kept.cookie, kept.tokens, ?_, ?_, ?_⟩
      · intro token offered
        rcases List.mem_cons.mp offered with rfl | older
        · exact ⟨sessionId, [], only⟩
        · exact kept.offers token older
      · refine List.nodup_cons.mpr ⟨fun member => ?_, sound.distinct⟩
        obtain ⟨token, offered, same⟩ := List.mem_map.mp member
        exact foreign token (by simp [Browser.held, offered]) same
      · intro offer offered token held
        rcases List.mem_cons.mp offered with rfl | older
        · refine foreign token ?_
          rcases held with cookie | carried
          · have found : browser.cookie = some token := cookie
            simp [Browser.held, found]
          · have found : token ∈ browser.stage.tokens := carried
            simp [Browser.held, found]
        · exact sound.apart offer older token held
  | renewed newest issued =>
      cases signsIn

theorem accept [DecidableEq Token] (sound : browser.Sound settings crypto) {token : Token}
    (offered : token ∈ browser.offers) :
    Browser.Sound settings crypto
      { browser with
        cookie := some token
        offers := browser.offers.erase token } := by
  have other : ∀ offer ∈ browser.offers.erase token,
      sessionOf crypto token ≠ sessionOf crypto offer := by
    intro offer left same
    have nodup := sound.distinct.of_map
    obtain ⟨different, member⟩ := nodup.mem_erase_iff.mp left
    exact different (List.inj_on_of_nodup_map sound.distinct member offered same.symm)
  refine ⟨sound.coherent, sound.linked, sound.stage, fun found held => ?_, sound.tokens,
    fun offer left => sound.offers offer (List.mem_of_mem_erase left),
    sound.distinct.sublist (List.erase_sublist.map _), fun offer left found held => ?_⟩
  · obtain rfl := Option.some.inj held
    exact .inl (sound.offers _ offered)
  · rcases held with cookie | carried
    · obtain rfl := Option.some.inj cookie
      exact other offer left
    · exact sound.apart offer (List.mem_of_mem_erase left) found (.inr carried)

theorem clear (sound : browser.Sound settings crypto) :
    Browser.Sound settings crypto { browser with cookie := none } :=
  ⟨sound.coherent, sound.linked, sound.stage, nofun, sound.tokens, sound.offers,
    sound.distinct, fun offer offered token held =>
      sound.apart offer offered token (.inr (held.resolve_left nofun))⟩

theorem reload (sound : browser.Sound settings crypto) (closed : browser.stage.isOpen = false)
    (marker : Bool) :
    Browser.Sound settings crypto
      { browser with
        page := State.initial marker browser.page.deviceId
        stage := .idle } := by
  have unchanged : browser.stage.isRenewed = false := by
    cases stage : browser.stage with
    | served result =>
        rw [stage] at closed
        cases closed
    | _ =>
        rfl
  have settled := sound.settled unchanged
  have kept : ({ browser with
      page := State.initial marker browser.page.deviceId
      stage := .idle } : Browser Input Me Token Digest).Settled crypto :=
    ⟨settled.cookie, settled.offers, settled.distinct, settled.apart⟩
  exact kept.sound (coherent_initial marker _) sound.linked rfl rfl

theorem read (sound : browser.Sound settings crypto) {promise : Nat}
    (reading : browser.stage = .reading) (underWay : browser.page.refreshPromise = some promise)
    (body : Option Body) :
    Browser.Sound settings crypto
      { browser with
        page := bodyRead settings browser.page promise body
        stage := .idle } := by
  have matched := sound.stage
  have settled := sound.settled (by rw [reading]; rfl)
  rw [reading] at matched
  obtain ⟨activity, status, same, waits⟩ := matched
  obtain rfl := Option.some.inj (same.symm.trans underWay)
  have kept : ({ browser with
      page := bodyRead settings browser.page activity body
      stage := .idle } : Browser Input Me Token Digest).Settled crypto :=
    ⟨settled.cookie, settled.offers, settled.distinct, settled.apart⟩
  exact kept.sound (sound.coherent.bodyRead activity body) sound.linked
    (Coherent.bodyRead_refresh waits body) rfl

/-- What happens in a calm browser keeps the invariant. -/
theorem step [DecidableEq Token] [DecidableEq Digest] (cryptoSound : crypto.Sound)
    (sound : browser.Sound settings crypto) (happening : Happening Input Body Token)
    (calm : Calm browser happening) :
    (browser.step settings crypto happening).Sound settings crypto := by
  cases happening with
  | page event =>
      rw [Browser.step]
      split_ifs with about
      · exact sound
      · refine sound.advance event fun activity same underWay => about ?_
        rw [same, underWay]
        exact ⟨rfl, rfl⟩
  | serve clientInfo draws now =>
      rw [Browser.step]
      split
      · next sent => exact sound.serve cryptoSound sent clientInfo draws now
      · exact sound
  | deliver =>
      rw [Browser.step]
      split
      · next served => exact sound.deliver served
      · exact sound
  | read body =>
      rw [Browser.step]
      split
      · next reading underWay => exact sound.read reading underWay body
      · exact sound
  | fail status =>
      rw [Browser.step]
      split
      · next sent => exact sound.fail (by rw [sent]; rfl) calm status
      · next served => exact sound.fail (by rw [served]; rfl) calm status
      · exact sound
  | signIn call =>
      exact sound.signIn cryptoSound calm
  | accept token =>
      rw [Browser.step]
      split_ifs with offered
      · exact sound.accept offered
      · exact sound
  | clear =>
      exact sound.clear
  | foreign call =>
      obtain ⟨result, after, served, issues, linked⟩ := sound.served_call cryptoSound call
      have reached : (accounts crypto).step browser.database call = after :=
        congrArg Prod.snd served
      rw [Browser.step, reached]
      exact sound.database issues linked calm
  | reload marker =>
      exact sound.reload calm marker

theorem trusted [DecidableEq Digest] (cryptoSound : crypto.Sound)
    (sound : browser.Sound settings crypto) (happening : Happening Input Body Token) :
    Trusted crypto browser happening := by
  cases happening with
  | serve clientInfo draws now =>
      intro token payload sent valid
      refine trusted_of_newest cryptoSound sound.linked (sound.tokens token ?_) valid
      rw [sent]
      exact List.mem_singleton_self token
  | _ =>
      trivial

end Browser.Sound

theorem Browser.sound_initial (marker : Bool) (deviceId : Option String) :
    (Browser.initial marker deviceId : Browser Input Me Token Digest).Sound settings crypto where
  coherent := coherent_initial marker deviceId
  linked := initial_linked
  stage := rfl
  cookie := nofun
  tokens := nofun
  offers := nofun
  distinct := List.nodup_nil
  apart := nofun

end Steps

/-- As long as no response to a refresh is lost and nobody else has a token of the browser,
the API takes no refresh of the page for the use of an old token, whatever the page does in
the meantime and whoever else uses the API. -/
theorem refresh_rotation [DecidableEq Token] [DecidableEq Digest]
    (settings : Settings Input Body Me) (crypto : Crypto Token Digest)
    (cryptoSound : crypto.Sound) (marker : Bool) (deviceId : Option String)
    (happenings : List (Happening Input Body Token))
    (calm : (browsing settings crypto).Along Calm
      (Browser.initial marker deviceId : Browser Input Me Token Digest) happenings) :
    (browsing settings crypto).Along (Trusted crypto)
      (Browser.initial marker deviceId : Browser Input Me Token Digest) happenings :=
  calm.of_invariant (fun _ happening sound _ => sound.trusted cryptoSound happening)
    (fun _ happening sound met => sound.step cryptoSound happening met)
    (Browser.sound_initial marker deviceId)

section Sample

def sampleSettings : Settings String AuthResponse AuthResponse where
  refreshInput _ := "/auth/refresh"
  meInput := "/auth/me"
  randomUUID _ := "browser"
  readAuth := id
  readMe := id
  userOf := AuthResponse.user

/-- Two requests of a page are refused, and share one refresh; a later one follows. -/
def sampleHappenings : List (Happening String AuthResponse SampleToken) :=
  [.signIn (.register sampleRegistration none (sampleDraws 0) 1000),
    .accept (sampleToken 0 "device-0" 0 1000),
    .page (.apiFetch "/jobs" none true),
    .page (.apiFetch "/messages" none true),
    .page (.answer 0 (some 401)),
    .page (.answer 1 (some 401)),
    .serve none (sampleDraws 1) 2000,
    .deliver,
    .read (some ⟨none, some "access", none⟩),
    .page (.resume 0),
    .page .autoRefresh,
    .foreign (.login sampleLogin (some ⟨some "phone", none, none⟩) (sampleDraws 2) 3000),
    .serve none (sampleDraws 3) 4000,
    .deliver]

theorem sampleHappenings_trusted :
    (browsing sampleSettings sampleCrypto).Along (Trusted sampleCrypto)
      (Browser.initial true none) sampleHappenings :=
  refresh_rotation sampleSettings sampleCrypto sampleCrypto_sound true none sampleHappenings
    (by decide +kernel)

/-- The browser ends with the third token of its session. -/
example :
    ((browsing sampleSettings sampleCrypto).run (Browser.initial true none)
      sampleHappenings).cookie = some (sampleToken 0 "device-0" 3 4000) := by
  decide +kernel

end Sample

end Tchuno.Web.Session
