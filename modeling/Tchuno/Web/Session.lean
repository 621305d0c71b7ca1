import Tchuno.Auth.Schema
import Tchuno.Library.Machine
import Tchuno.Library.Pool

/-!
# The session of a page

The module keeps the access token in memory and shares one refresh among all the calls
that need one.  A call of `apiFetch`, of `ensureSession` or of the timer runs from one wait
to the next without interruption; what happens in between is up to the other calls and to
the network, in any order.
-/

namespace Tchuno.Web.Session

open Tchuno.Library Tchuno.Library.Ecma

/-! ## Tokens -/

structure AuthUser where
  id : String
  email : String
  name : Option String
  role : Auth.UserRole
  adminSubrole : Option Auth.AdminSubrole
  deriving DecidableEq

/-- The JSON of an answer is not checked, so every field may be missing. -/
structure AuthResponse where
  user : Option AuthUser
  accessToken : Option String
  refreshToken : Option String
  deriving DecidableEq

def sanitizeAuthResponse (auth : AuthResponse) : AuthResponse :=
  { auth with refreshToken := some "" }

/-- What `ensureSession` returns. -/
structure SessionState (Me : Type) where
  auth : AuthResponse
  me : Me
  deriving DecidableEq

/-! ## Calls -/

/-- Who waits for a call of `apiFetch`. -/
inductive Caller where
  /-- the page itself, which gets the response -/
  | page
  /-- `refresh`, for the promise that is shared -/
  | refresh
  /-- `ensureSession`, with the token it has found -/
  | check
  /-- `ensureSession`, after a refresh -/
  | load (auth : AuthResponse)
  deriving DecidableEq

structure FetchCall (Input : Type) where
  input : Input
  retryOnUnauthorized : Bool
  caller : Caller
  deriving DecidableEq

/-- Where a call has stopped. -/
inductive Activity (Input : Type) where
  /-- the first `fetch` of `apiFetch` -/
  | requesting (call : FetchCall Input)
  /-- `apiFetch`, with a response of 401, for a refresh -/
  | renewing (call : FetchCall Input) (status : Nat) (promise : Nat)
  /-- the second `fetch` of `apiFetch` -/
  | repeating (call : FetchCall Input)
  /-- the body of a response -/
  | reading (caller : Caller) (status : Nat)
  /-- `ensureSession`, for a refresh -/
  | ensuring (promise : Nat)
  /-- the timer, for a refresh -/
  | ticking (promise : Nat)
  deriving DecidableEq

/-- A request as it is sent, with its headers. -/
structure Sent (Input : Type) where
  activity : Nat
  input : Input
  authorization : Option String
  deviceId : String
  deriving DecidableEq

/-- What a call of the page ends with. -/
inductive Outcome (Me : Type) where
  | response (status : Nat)
  | rejected
  | session (session : Option (SessionState Me))
  | tick (auth : Option AuthResponse)
  deriving DecidableEq

/-- The variables of the module, the storage it uses, and the calls. -/
structure State (Input Me : Type) where
  currentAuth : Option AuthResponse
  /-- the number of the call which settles the promise -/
  refreshPromise : Option Nat
  marker : Bool
  deviceId : Option String
  activities : Pool (Activity Input)
  settled : Nat → Option (Option AuthResponse)
  /-- newest first -/
  sent : List (Sent Input)
  outcomes : List (Nat × Outcome Me)

/-- The requests of the module, and how bodies are read. -/
structure Settings (Input Body Me : Type) where
  refreshInput : Option String → Input
  meInput : Input
  randomUUID : Nat → String
  readAuth : Body → AuthResponse
  readMe : Body → Me
  userOf : Me → Option AuthUser

variable {Input Body Me : Type} (settings : Settings Input Body Me)

namespace State

variable (state : State Input Me)

def saveTokens (auth : AuthResponse) : State Input Me :=
  { state with
    currentAuth := some (sanitizeAuthResponse auth)
    marker := true }

def clearTokens : State Input Me :=
  { state with
    currentAuth := none
    marker := false }

def accessToken? : Option String :=
  state.currentAuth.bind AuthResponse.accessToken

/-- The refresh token of `getStoredTokens`. -/
def refreshToken? : Option String :=
  (state.currentAuth.bind AuthResponse.refreshToken).filter fun token => trim token ≠ ""

def hasStoredSessionTokens : Bool :=
  (truthy state.accessToken?).isSome || (truthy state.refreshToken?).isSome || state.marker

def finish (activity : Nat) (outcome : Outcome Me) : State Input Me :=
  { state with
    activities := state.activities.set activity none
    outcomes := (activity, outcome) :: state.outcomes }

def wait (activity : Nat) (position : Activity Input) : State Input Me :=
  { state with activities := state.activities.set activity (some position) }

/-- The number of a new call. -/
def reserve : State Input Me :=
  { state with activities := state.activities.reserve }

end State

/-! ## Requests -/

def getOrCreateDeviceId (state : State Input Me) : String :=
  match state.deviceId.filter fun existing => trim existing ≠ "" with
  | some existing => existing
  | none => settings.randomUUID state.sent.length

def authorizationHeader (accessToken : Option String) : Option String :=
  (truthy (accessToken.map trim)).map fun token => "Bearer " ++ token

/-- `fetch` with the headers of `buildHeaders`. -/
def fetch (state : State Input Me) (activity : Nat) (input : Input)
    (accessToken : Option String) : State Input Me :=
  { state with
    deviceId := some (getOrCreateDeviceId settings state)
    sent :=
      ⟨activity, input, authorizationHeader accessToken, getOrCreateDeviceId settings state⟩ ::
        state.sent }

/-- The first part of `apiFetch`. -/
def apiFetch (state : State Input Me) (activity : Nat) (call : FetchCall Input)
    (accessToken : Option String) : State Input Me :=
  fetch settings (state.wait activity (.requesting call)) activity call.input
    (state.accessToken?.or accessToken)

/-- The call of `refresh` which `refreshSession` makes; an empty token is not sent. -/
def refreshCall (state : State Input Me) : FetchCall Input :=
  ⟨settings.refreshInput (truthy (state.currentAuth.bind AuthResponse.refreshToken)), false,
    .refresh⟩

def startRefresh (state : State Input Me) : State Input Me :=
  { apiFetch settings state.reserve state.activities.next (refreshCall settings state) none with
    refreshPromise := some state.activities.next }

/-- The refresh which is under way, or a new one. -/
def refreshSession (state : State Input Me) : State Input Me × Nat :=
  match state.refreshPromise with
  | some promise => (state, promise)
  | none => (startRefresh settings state, state.activities.next)

/-- `ensureSession` once there is no usable access token. -/
def ensureByRefresh (state : State Input Me) (activity : Nat) : State Input Me :=
  if state.hasStoredSessionTokens then
    (refreshSession settings state).1.wait activity
      (.ensuring (refreshSession settings state).2)
  else
    state.clearTokens.finish activity (.session none)

def ensureSession (state : State Input Me) (activity : Nat) : State Input Me :=
  if (truthy state.accessToken?).isSome then
    apiFetch settings state activity ⟨settings.meInput, true, .check⟩ state.accessToken?
  else
    ensureByRefresh settings state activity

/-- The callback of `startAutoRefresh`. -/
def autoRefresh (state : State Input Me) (activity : Nat) : State Input Me :=
  if state.hasStoredSessionTokens then
    (refreshSession settings state).1.wait activity
      (.ticking (refreshSession settings state).2)
  else
    state.finish activity (.tick none)

/-! ## Answers -/

/-- The promise gets its value, and the next refresh is a new one. -/
def settle (state : State Input Me) (promise : Nat) (result : Option AuthResponse) :
    State Input Me :=
  { state with
    refreshPromise := none
    activities := state.activities.set promise none
    settled := Function.update state.settled promise (some result) }

def refreshed (state : State Input Me) (promise : Nat) (auth : AuthResponse) :
    State Input Me :=
  settle (state.saveTokens (sanitizeAuthResponse auth)) promise
    (some (sanitizeAuthResponse (sanitizeAuthResponse auth)))

/-- The caller of `apiFetch` gets an exception. -/
def raise (state : State Input Me) (activity : Nat) : Caller → State Input Me
  | .page => state.finish activity .rejected
  | .refresh => settle state.clearTokens activity none
  | .check => ensureByRefresh settings state activity
  | .load _ => state.clearTokens.finish activity (.session none)

def isOk (status : Nat) : Bool :=
  200 ≤ status && status ≤ 299

/-- The caller of `apiFetch` gets a response, and waits for the body. -/
def respond (state : State Input Me) (activity : Nat) (caller : Caller) (status : Nat) :
    State Input Me :=
  match caller with
  | .page => state.finish activity (.response status)
  | .refresh =>
      -- `postJson` returns `undefined`
      if status = 204 then refreshed state activity ⟨none, none, none⟩
      else state.wait activity (.reading .refresh status)
  | .check => state.wait activity (.reading .check status)
  | .load auth => state.wait activity (.reading (.load auth) status)

def fallbackUser : AuthUser :=
  ⟨"", "", none, .user, none⟩

/-- The caller has the body of its response; `none` is a body which is not JSON. -/
def readBody (state : State Input Me) (activity : Nat) (caller : Caller) (status : Nat)
    (body : Option Body) : State Input Me :=
  match body.filter fun _ => isOk status with
  | none => raise settings state activity caller
  | some body =>
      match caller with
      | .page => state
      | .refresh => refreshed state activity (settings.readAuth body)
      | .check =>
          match state.currentAuth with
          -- reading a property of `null` throws
          | none => raise settings state activity .check
          | some current =>
              state.finish activity (.session (some
                ⟨⟨some ((settings.userOf (settings.readMe body)).getD fallbackUser),
                  current.accessToken, current.refreshToken⟩, settings.readMe body⟩))
      | .load auth => state.finish activity (.session (some ⟨auth, settings.readMe body⟩))

/-! ## Steps -/

inductive Event (Input Body : Type) where
  | apiFetch (input : Input) (accessToken : Option String) (retryOnUnauthorized : Bool)
  | ensureSession
  | autoRefresh
  | saveTokens (auth : AuthResponse)
  | clearTokens
  /-- the marker expires, or the API sets it -/
  | setMarker (present : Bool)
  /-- the status of the response to a request, unless there is none -/
  | answer (activity : Nat) (status : Option Nat)
  | body (activity : Nat) (body : Option Body)
  /-- a call which has waited for a refresh goes on -/
  | resume (activity : Nat)

def answered (state : State Input Me) (activity : Nat) (status : Option Nat) :
    State Input Me :=
  match state.activities.get? activity with
  | some (.requesting call) =>
      match status with
      | none => raise settings state activity call.caller
      | some status =>
          if status ≠ 401 ∨ call.retryOnUnauthorized = false then
            respond state activity call.caller status
          else
            (refreshSession settings state).1.wait activity
              (.renewing call status (refreshSession settings state).2)
  | some (.repeating call) =>
      match status with
      | none => raise settings state activity call.caller
      | some status => respond state activity call.caller status
  | _ => state

def bodyRead (state : State Input Me) (activity : Nat) (body : Option Body) :
    State Input Me :=
  match state.activities.get? activity with
  | some (.reading caller status) => readBody settings state activity caller status body
  | _ => state

/-- The wait for a refresh is over. -/
def resumeWith (state : State Input Me) (activity : Nat) (position : Activity Input)
    (result : Option AuthResponse) : State Input Me :=
  match position with
  | .renewing call status _ =>
      match truthy (result.bind AuthResponse.accessToken) with
      | none => respond state activity call.caller status
      | some accessToken =>
          fetch settings (state.wait activity (.repeating call)) activity call.input
            (some accessToken)
  | .ensuring _ =>
      match result with
      | none => state.clearTokens.finish activity (.session none)
      | some auth =>
          apiFetch settings state activity ⟨settings.meInput, true, .load auth⟩ auth.accessToken
  | .ticking _ => state.finish activity (.tick result)
  | _ => state

/-- The promise a call waits for. -/
def Activity.promise? : Activity Input → Option Nat
  | .renewing _ _ promise => some promise
  | .ensuring promise => some promise
  | .ticking promise => some promise
  | _ => none

def resumed (state : State Input Me) (activity : Nat) : State Input Me :=
  match state.activities.get? activity with
  | none => state
  | some position =>
      match position.promise?.bind state.settled with
      | none => state
      | some result => resumeWith settings state activity position result

def step (state : State Input Me) : Event Input Body → State Input Me
  | .apiFetch input accessToken retryOnUnauthorized =>
      apiFetch settings state.reserve state.activities.next
        ⟨input, retryOnUnauthorized, .page⟩ accessToken
  | .ensureSession => Session.ensureSession settings state.reserve state.activities.next
  | .autoRefresh => Session.autoRefresh settings state.reserve state.activities.next
  | .saveTokens auth => state.saveTokens auth
  | .clearTokens => state.clearTokens
  | .setMarker present => { state with marker := present }
  | .answer activity status => answered settings state activity status
  | .body activity body => bodyRead settings state activity body
  | .resume activity => resumed settings state activity

def page : Machine (State Input Me) (Event Input Body) where
  step := step settings

/-- A page which has just been loaded. -/
def State.initial (marker : Bool) (deviceId : Option String) : State Input Me where
  currentAuth := none
  refreshPromise := none
  marker := marker
  deviceId := deviceId
  activities := .empty
  settled := fun _ => none
  sent := []
  outcomes := []

end Tchuno.Web.Session
