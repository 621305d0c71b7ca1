import Tchuno.Web.Session

/-!
# One refresh at a time

Between any two steps of the page at most one request to refresh is under way, all the
calls which need it wait for its promise, and each of them goes on with the same result.
-/

namespace Tchuno.Web.Session

open Tchuno.Library Tchuno.Library.Ecma

variable {Input Body Me : Type} (settings : Settings Input Body Me)

/-! ## The invariant -/

def Activity.caller? : Activity Input → Option Caller
  | .requesting call => some call.caller
  | .renewing call _ _ => some call.caller
  | .repeating call => some call.caller
  | .reading caller _ => some caller
  | _ => none

/-- The refresh token stays in its cookie. -/
def AuthResponse.IsSanitized (auth : AuthResponse) : Prop :=
  auth.refreshToken = some ""

def Caller.IsSanitized : Caller → Prop
  | .load auth => auth.IsSanitized
  | _ => True

/-- A refresh is asked for once, without a token. -/
def Activity.WellFormed (position : Activity Input) : Prop :=
  (∀ caller, position.caller? = some caller → caller.IsSanitized) ∧
    (position.caller? = some .refresh →
      position = .requesting ⟨settings.refreshInput none, false, .refresh⟩ ∨
        ∃ status, position = .reading .refresh status)

/-- The promise has a value, or the call which settles it is under way. -/
def State.Promised (state : State Input Me) (promise : Nat) : Prop :=
  state.refreshPromise = some promise ∨ (state.settled promise).isSome

/-- What the module keeps to at every moment. -/
structure Coherent (state : State Input Me) : Prop where
  /-- one refresh is under way when there is a promise, and none otherwise -/
  single : ∀ activity,
    (state.activities.get? activity).bind Activity.caller? = some .refresh ↔
      state.refreshPromise = some activity
  form : ∀ activity position, state.activities.get? activity = some position →
    position.WellFormed settings
  /-- nobody waits for what never comes -/
  promised : ∀ activity position promise, state.activities.get? activity = some position →
    position.promise? = some promise → state.Promised promise
  /-- a promise with a value is not settled again -/
  closed : ∀ promise, (state.settled promise).isSome →
    promise < state.activities.next ∧ state.refreshPromise ≠ some promise
  /-- the refresh token is never in memory -/
  current : ∀ auth, state.currentAuth = some auth → auth.IsSanitized
  settled : ∀ promise auth, state.settled promise = some (some auth) → auth.IsSanitized
  returned : ∀ activity session, (activity, .session (some session)) ∈ state.outcomes →
    session.auth.IsSanitized

variable {settings} {state : State Input Me}

/-- The refresh waits for no other. -/
theorem Activity.WellFormed.renewing_other {call : FetchCall Input} {status : Nat}
    {promise : Nat} (form : (Activity.renewing call status promise).WellFormed settings) :
    call.caller ≠ .refresh := by
  intro refresh
  rcases form.2 (congrArg some refresh) with requesting | ⟨received, reading⟩
  · cases requesting
  · cases reading

theorem get?_wait (activity number : Nat) (position : Activity Input) :
    (state.wait activity position).activities.get? number =
      if number = activity ∧ activity < state.activities.next then some position
      else state.activities.get? number := rfl

/-- The refresh runs under the next number. -/
theorem get?_startRefresh (number : Nat) :
    (startRefresh settings state).activities.get? number =
      if number = state.activities.next then some (.requesting (refreshCall settings state))
      else state.activities.get? number := by
  change (state.reserve.wait state.activities.next _).activities.get? number = _
  rw [get?_wait]
  simp [State.reserve]

theorem get?_finish (activity number : Nat) (outcome : Outcome Me) :
    (state.finish activity outcome).activities.get? number =
      if number = activity ∧ activity < state.activities.next then none
      else state.activities.get? number := rfl

theorem get?_settle (promise number : Nat) (result : Option AuthResponse) :
    (settle state promise result).activities.get? number =
      if number = promise ∧ promise < state.activities.next then none
      else state.activities.get? number := rfl

theorem settled_settle (promise other : Nat) (result : Option AuthResponse) :
    (settle state promise result).settled other =
      if other = promise then some result else state.settled other :=
  Function.update_apply _ _ _ _

theorem refreshSession_of_some {promise : Nat} (underWay : state.refreshPromise = some promise) :
    refreshSession settings state = (state, promise) := by
  rw [refreshSession, underWay]

theorem refreshSession_of_none (idle : state.refreshPromise = none) :
    refreshSession settings state = (startRefresh settings state, state.activities.next) := by
  rw [refreshSession, idle]

theorem isSanitized_sanitizeAuthResponse (auth : AuthResponse) :
    (sanitizeAuthResponse auth).IsSanitized := rfl

namespace Coherent

theorem saveTokens (coherent : Coherent settings state) (auth : AuthResponse) :
    Coherent settings (state.saveTokens auth) where
  single := coherent.single
  form := coherent.form
  promised := coherent.promised
  closed := coherent.closed
  current _ same := Option.some.inj same ▸ isSanitized_sanitizeAuthResponse auth
  settled := coherent.settled
  returned := coherent.returned

theorem clearTokens (coherent : Coherent settings state) :
    Coherent settings state.clearTokens where
  single := coherent.single
  form := coherent.form
  promised := coherent.promised
  closed := coherent.closed
  current _ same := nomatch same
  settled := coherent.settled
  returned := coherent.returned

theorem setMarker (coherent : Coherent settings state) (present : Bool) :
    Coherent settings { state with marker := present } :=
  ⟨coherent.single, coherent.form, coherent.promised, coherent.closed, coherent.current,
    coherent.settled, coherent.returned⟩

theorem reserve (coherent : Coherent settings state) : Coherent settings state.reserve where
  single := coherent.single
  form := coherent.form
  promised := coherent.promised
  closed promise value :=
    have known := coherent.closed promise value
    ⟨known.1.trans (Nat.lt_succ_self _), known.2⟩
  current := coherent.current
  settled := coherent.settled
  returned := coherent.returned

theorem fetch (coherent : Coherent settings state) (activity : Nat) (input : Input)
    (accessToken : Option String) :
    Coherent settings (Session.fetch settings state activity input accessToken) :=
  ⟨coherent.single, coherent.form, coherent.promised, coherent.closed, coherent.current,
    coherent.settled, coherent.returned⟩

/-- A call which is not the refresh itself goes to another wait. -/
theorem wait (coherent : Coherent settings state) {activity : Nat} {position : Activity Input}
    (apart : state.refreshPromise ≠ some activity) (other : position.caller? ≠ some .refresh)
    (sanitized : ∀ caller, position.caller? = some caller → caller.IsSanitized)
    (promised : ∀ promise, position.promise? = some promise → state.Promised promise) :
    Coherent settings (state.wait activity position) where
  single number := by
    change _ ↔ state.refreshPromise = some number
    rw [← coherent.single number, get?_wait]
    split_ifs with same
    · obtain ⟨rfl, _⟩ := same
      refine iff_of_false other fun refresh => apart ?_
      exact (coherent.single number).mp refresh
    · rfl
  form number found running := by
    rw [get?_wait] at running
    split_ifs at running with same
    · obtain rfl := Option.some.inj running
      exact ⟨sanitized, fun refresh => absurd refresh other⟩
    · exact coherent.form number found running
  promised number found promise running waits := by
    rw [get?_wait] at running
    split_ifs at running with same
    · exact promised promise (Option.some.inj running ▸ waits)
    · exact coherent.promised number found promise running waits
  closed := coherent.closed
  current := coherent.current
  settled := coherent.settled
  returned := coherent.returned

theorem finish (coherent : Coherent settings state) {activity : Nat} {outcome : Outcome Me}
    (apart : state.refreshPromise ≠ some activity)
    (returned : ∀ session, outcome = .session (some session) → session.auth.IsSanitized) :
    Coherent settings (state.finish activity outcome) where
  single number := by
    change _ ↔ state.refreshPromise = some number
    rw [← coherent.single number, get?_finish]
    split_ifs with same
    · obtain ⟨rfl, _⟩ := same
      refine iff_of_false nofun fun refresh => apart ?_
      exact (coherent.single number).mp refresh
    · rfl
  form number found running := by
    rw [get?_finish] at running
    split_ifs at running with same
    exact coherent.form number found running
  promised number found promise running waits := by
    rw [get?_finish] at running
    split_ifs at running with same
    exact coherent.promised number found promise running waits
  closed := coherent.closed
  current := coherent.current
  settled := coherent.settled
  returned number session member := by
    rcases List.mem_cons.mp member with same | older
    · obtain ⟨_, rfl⟩ := Prod.mk.inj same
      exact returned session rfl
    · exact coherent.returned number session older

theorem lt_next (coherent : Coherent settings state) {promise : Nat}
    (underWay : state.refreshPromise = some promise) : promise < state.activities.next := by
  have refresh := (coherent.single promise).mpr underWay
  obtain ⟨position, running, _⟩ := Option.bind_eq_some_iff.mp refresh
  exact Pool.lt_next_of_get? running

/-- The refresh ends. -/
theorem settle (coherent : Coherent settings state) {promise : Nat}
    {result : Option AuthResponse} (underWay : state.refreshPromise = some promise)
    (sanitized : ∀ auth, result = some auth → auth.IsSanitized) :
    Coherent settings (Session.settle state promise result) where
  single number := by
    refine iff_of_false ?_ nofun
    rw [get?_settle]
    split_ifs with same
    · exact nofun
    · intro refresh
      have other := (coherent.single number).mp refresh
      rw [underWay] at other
      obtain rfl := Option.some.inj other
      exact same ⟨rfl, coherent.lt_next underWay⟩
  form number found running := by
    rw [get?_settle] at running
    split_ifs at running with same
    exact coherent.form number found running
  promised number found other running waits := by
    rw [get?_settle] at running
    split_ifs at running with same
    right
    rw [settled_settle]
    split_ifs with own
    · rfl
    · rcases coherent.promised number found other running waits with opened | settled
      · rw [underWay] at opened
        exact absurd (Option.some.inj opened).symm own
      · exact settled
  closed other value := by
    refine ⟨?_, nofun⟩
    rw [settled_settle] at value
    split_ifs at value with own
    · subst own
      exact coherent.lt_next underWay
    · exact (coherent.closed other value).1
  current := coherent.current
  settled other auth given := by
    rw [settled_settle] at given
    split_ifs at given with own
    · exact sanitized auth (Option.some.inj given)
    · exact coherent.settled other auth given
  returned := coherent.returned

theorem refreshCall_eq (coherent : Coherent settings state) :
    refreshCall settings state = ⟨settings.refreshInput none, false, .refresh⟩ := by
  have empty : truthy (state.currentAuth.bind AuthResponse.refreshToken) = none := by
    cases current : state.currentAuth with
    | none =>
        rfl
    | some auth =>
        rw [Option.bind_some, coherent.current auth current]
        rfl
  rw [refreshCall, empty]

/-- Without a refresh under way, one is started under the next number. -/
theorem startRefresh (coherent : Coherent settings state)
    (idle : state.refreshPromise = none) :
    Coherent settings (Session.startRefresh settings state) where
  single number := by
    change _ ↔ some state.activities.next = some number
    rw [get?_startRefresh]
    split_ifs with same
    · exact iff_of_true rfl (congrArg some same.symm)
    · refine iff_of_false (fun refresh => ?_) fun next => same (Option.some.inj next).symm
      have opened := (coherent.single number).mp refresh
      rw [idle] at opened
      cases opened
  form number found running := by
    rw [get?_startRefresh] at running
    split_ifs at running with same
    · obtain rfl := Option.some.inj running
      rw [coherent.refreshCall_eq]
      exact ⟨fun _ caller => Option.some.inj caller ▸ trivial, fun _ => .inl rfl⟩
    · exact coherent.form number found running
  promised number found promise running waits := by
    rw [get?_startRefresh] at running
    split_ifs at running with same
    · obtain rfl := Option.some.inj running
      cases waits
    · rcases coherent.promised number found promise running waits with opened | settled
      · rw [idle] at opened
        cases opened
      · exact .inr settled
  closed promise value := by
    have known := (coherent.closed promise value).1
    exact ⟨known.trans (Nat.lt_succ_self _), fun same => known.ne (Option.some.inj same).symm⟩
  current := coherent.current
  settled := coherent.settled
  returned := coherent.returned

/-- A call joins the refresh, whether that is under way or not. -/
theorem join (coherent : Coherent settings state) {activity : Nat}
    (given : activity < state.activities.next) (apart : state.refreshPromise ≠ some activity)
    {position : Nat → Activity Input}
    (other : ∀ promise, (position promise).caller? ≠ some .refresh)
    (sanitized : ∀ promise caller, (position promise).caller? = some caller →
      caller.IsSanitized)
    (waits : ∀ promise, (position promise).promise? = some promise) :
    Coherent settings
      ((refreshSession settings state).1.wait activity
        (position (refreshSession settings state).2)) := by
  have promised : ∀ {joined : State Input Me} {promise found : Nat},
      joined.refreshPromise = some promise → (position promise).promise? = some found →
      joined.Promised found := by
    intro joined promise found opened awaited
    rw [waits promise] at awaited
    exact .inl (Option.some.inj awaited ▸ opened)
  cases underWay : state.refreshPromise with
  | some promise =>
      rw [refreshSession_of_some underWay]
      exact coherent.wait apart (other promise) (sanitized promise) fun _ => promised underWay
  | none =>
      rw [refreshSession_of_none underWay]
      refine (coherent.startRefresh underWay).wait ?_ (other _) (sanitized _) fun _ => promised rfl
      intro same
      exact absurd given (Option.some.inj same ▸ lt_irrefl _)

theorem finish_session (coherent : Coherent settings state) {activity : Nat}
    (apart : state.refreshPromise ≠ some activity) :
    Coherent settings (state.clearTokens.finish activity (.session none)) :=
  coherent.clearTokens.finish apart fun _ same => nomatch same

theorem ensureByRefresh (coherent : Coherent settings state) {activity : Nat}
    (given : activity < state.activities.next)
    (apart : state.refreshPromise ≠ some activity) :
    Coherent settings (Session.ensureByRefresh settings state activity) := by
  unfold Session.ensureByRefresh
  split_ifs
  · exact coherent.join given apart (fun _ => nofun) (fun _ _ => nofun) fun _ => rfl
  · exact coherent.finish_session apart

/-- A request other than the refresh is sent. -/
theorem apiFetch (coherent : Coherent settings state) {activity : Nat}
    (apart : state.refreshPromise ≠ some activity) {call : FetchCall Input}
    (other : call.caller ≠ .refresh) (sanitized : call.caller.IsSanitized)
    (accessToken : Option String) :
    Coherent settings (Session.apiFetch settings state activity call accessToken) := by
  refine (coherent.wait apart ?_ ?_ ?_).fetch _ _ _
  · exact fun same => other (Option.some.inj same)
  · exact fun caller same => Option.some.inj same ▸ sanitized
  · exact fun _ => nofun

theorem ensureSession (coherent : Coherent settings state) {activity : Nat}
    (given : activity < state.activities.next)
    (apart : state.refreshPromise ≠ some activity) :
    Coherent settings (Session.ensureSession settings state activity) := by
  unfold Session.ensureSession
  split_ifs
  · refine coherent.apiFetch apart ?_ ?_ _
    · exact nofun
    · exact trivial
  · exact coherent.ensureByRefresh given apart

theorem autoRefresh (coherent : Coherent settings state) {activity : Nat}
    (given : activity < state.activities.next)
    (apart : state.refreshPromise ≠ some activity) :
    Coherent settings (Session.autoRefresh settings state activity) := by
  unfold Session.autoRefresh
  split_ifs
  · exact coherent.join given apart (fun _ => nofun) (fun _ _ => nofun) fun _ => rfl
  · exact coherent.finish apart fun _ same => nomatch same

theorem refreshed (coherent : Coherent settings state) {promise : Nat}
    (underWay : state.refreshPromise = some promise) (auth : AuthResponse) :
    Coherent settings (Session.refreshed state promise auth) := by
  refine (coherent.saveTokens _).settle underWay fun other same => ?_
  exact Option.some.inj same ▸ isSanitized_sanitizeAuthResponse _

theorem raise (coherent : Coherent settings state) {activity : Nat} {caller : Caller}
    (given : activity < state.activities.next)
    (owner : caller = .refresh ↔ state.refreshPromise = some activity) :
    Coherent settings (Session.raise settings state activity caller) := by
  cases caller with
  | page =>
      exact coherent.finish (fun same => nomatch owner.mpr same) fun _ same => nomatch same
  | refresh =>
      exact coherent.clearTokens.settle (owner.mp rfl) nofun
  | check =>
      exact coherent.ensureByRefresh given fun same => nomatch owner.mpr same
  | load auth =>
      exact coherent.finish_session fun same => nomatch owner.mpr same

/-- The refresh waits for the body of its response. -/
theorem waitBody (coherent : Coherent settings state) {activity : Nat}
    (underWay : state.refreshPromise = some activity) (status : Nat) :
    Coherent settings (state.wait activity (.reading .refresh status)) where
  single number := by
    change _ ↔ state.refreshPromise = some number
    rw [← coherent.single number, get?_wait]
    split_ifs with same
    · obtain ⟨rfl, _⟩ := same
      exact iff_of_true rfl ((coherent.single number).mpr underWay)
    · rfl
  form number found running := by
    rw [get?_wait] at running
    split_ifs at running with same
    · obtain rfl := Option.some.inj running
      exact ⟨fun caller same => Option.some.inj same ▸ trivial, fun _ => .inr ⟨status, rfl⟩⟩
    · exact coherent.form number found running
  promised number found promise running waits := by
    rw [get?_wait] at running
    split_ifs at running with same
    · obtain rfl := Option.some.inj running
      cases waits
    · exact coherent.promised number found promise running waits
  closed := coherent.closed
  current := coherent.current
  settled := coherent.settled
  returned := coherent.returned

theorem respond (coherent : Coherent settings state) {activity : Nat} {caller : Caller}
    (owner : caller = .refresh ↔ state.refreshPromise = some activity)
    (sanitized : caller.IsSanitized) (status : Nat) :
    Coherent settings (Session.respond state activity caller status) := by
  have reading : caller ≠ .refresh →
      Coherent settings (state.wait activity (.reading caller status)) := by
    intro other
    refine coherent.wait (fun same => other (owner.mpr same)) ?_ ?_ fun _ => nofun
    · exact fun same => other (Option.some.inj same)
    · exact fun _ same => Option.some.inj same ▸ sanitized
  cases caller with
  | page =>
      exact coherent.finish (fun same => nomatch owner.mpr same) fun _ same => nomatch same
  | refresh =>
      rw [Session.respond]
      split_ifs
      · exact coherent.refreshed (owner.mp rfl) _
      · exact coherent.waitBody (owner.mp rfl) status
  | check =>
      exact reading nofun
  | load auth =>
      exact reading nofun

theorem readBody (coherent : Coherent settings state) {activity : Nat} {caller : Caller}
    (given : activity < state.activities.next)
    (owner : caller = .refresh ↔ state.refreshPromise = some activity)
    (sanitized : caller.IsSanitized) (status : Nat) (body : Option Body) :
    Coherent settings (Session.readBody settings state activity caller status body) := by
  unfold Session.readBody
  cases read : body.filter fun _ => isOk status with
  | none =>
      exact coherent.raise given owner
  | some body =>
      cases caller with
      | page =>
          exact coherent
      | refresh =>
          exact coherent.refreshed (owner.mp rfl) _
      | check =>
          have apart : state.refreshPromise ≠ some activity := fun same => nomatch owner.mpr same
          cases current : state.currentAuth with
          | none =>
              exact coherent.raise given owner
          | some auth =>
              refine coherent.finish apart fun session same => ?_
              obtain rfl := Option.some.inj (Outcome.session.inj same)
              exact coherent.current auth current
      | load auth =>
          refine coherent.finish (fun same => nomatch owner.mpr same) fun session same => ?_
          obtain rfl := Option.some.inj (Outcome.session.inj same)
          exact sanitized

/-- Who a call works for tells whether it is the refresh. -/
theorem owner (coherent : Coherent settings state) {activity : Nat}
    {position : Activity Input} {caller : Caller}
    (running : state.activities.get? activity = some position)
    (works : position.caller? = some caller) :
    caller = .refresh ↔ state.refreshPromise = some activity := by
  rw [← coherent.single, running, Option.bind_some, works, Option.some.injEq]

theorem answered (coherent : Coherent settings state) (activity : Nat)
    (status : Option Nat) :
    Coherent settings (Session.answered settings state activity status) := by
  unfold Session.answered
  cases running : state.activities.get? activity with
  | none =>
      exact coherent
  | some position =>
      have given := Pool.lt_next_of_get? running
      have form := coherent.form activity position running
      cases position with
      | requesting call =>
          have owner := coherent.owner running rfl
          cases status with
          | none =>
              exact coherent.raise given owner
          | some status =>
              dsimp only
              split_ifs with final
              · exact coherent.respond owner (form.1 _ rfl) status
              · -- the refresh itself is not repeated
                have other : call.caller ≠ .refresh := by
                  intro refresh
                  have single := form.2 (congrArg some refresh)
                  simp_all
                refine coherent.join given (fun same => other (owner.mpr same)) ?_ ?_
                  fun _ => rfl
                · exact fun _ same => other (Option.some.inj same)
                · exact fun _ caller same => form.1 caller same
      | repeating call =>
          have owner := coherent.owner running rfl
          cases status with
          | none =>
              exact coherent.raise given owner
          | some status =>
              exact coherent.respond owner (form.1 _ rfl) status
      | _ =>
          exact coherent

theorem bodyRead (coherent : Coherent settings state) (activity : Nat)
    (body : Option Body) :
    Coherent settings (Session.bodyRead settings state activity body) := by
  unfold Session.bodyRead
  cases running : state.activities.get? activity with
  | none =>
      exact coherent
  | some position =>
      cases position with
      | reading caller status =>
          exact coherent.readBody (Pool.lt_next_of_get? running) (coherent.owner running rfl)
            ((coherent.form activity _ running).1 _ rfl) status body
      | _ =>
          exact coherent

/-- Only the refresh itself has the number of its promise. -/
theorem apart (coherent : Coherent settings state) {activity : Nat}
    {position : Activity Input} (running : state.activities.get? activity = some position)
    (other : position.caller? ≠ some .refresh) : state.refreshPromise ≠ some activity := by
  intro same
  have refresh := (coherent.single activity).mpr same
  rw [running] at refresh
  exact other refresh

theorem resumed (coherent : Coherent settings state) (activity : Nat) :
    Coherent settings (Session.resumed settings state activity) := by
  unfold Session.resumed
  cases running : state.activities.get? activity with
  | none =>
      exact coherent
  | some position =>
      dsimp only
      cases value : position.promise?.bind state.settled with
      | none =>
          exact coherent
      | some result =>
          obtain ⟨promise, _, settled⟩ := Option.bind_eq_some_iff.mp value
          have form := coherent.form activity position running
          cases position with
          | renewing call status awaited =>
              have owner := coherent.owner running rfl
              have other := form.renewing_other
              have apart : state.refreshPromise ≠ some activity :=
                fun same => other (owner.mpr same)
              simp only [resumeWith]
              split
              · exact coherent.respond owner (form.1 _ rfl) status
              · refine (coherent.wait apart ?_ ?_ ?_).fetch _ _ _
                · exact fun same => other (Option.some.inj same)
                · exact form.1
                · exact fun _ => nofun
          | ensuring awaited =>
              have apart := coherent.apart running nofun
              cases result with
              | none =>
                  exact coherent.finish_session apart
              | some auth =>
                  refine coherent.apiFetch apart ?_ ?_ _
                  · exact nofun
                  · exact coherent.settled promise auth settled
          | ticking awaited =>
              exact coherent.finish (coherent.apart running nofun) fun _ same => nomatch same
          | _ =>
              exact coherent

/-- Every step keeps the invariant. -/
theorem step (coherent : Coherent settings state) (event : Event Input Body) :
    Coherent settings (Session.step settings state event) := by
  have fresh : state.reserve.refreshPromise ≠ some state.activities.next := by
    intro same
    have refresh := (coherent.single _).mpr same
    rw [Pool.get?_next] at refresh
    cases refresh
  cases event with
  | apiFetch input accessToken retryOnUnauthorized =>
      refine coherent.reserve.apiFetch fresh ?_ ?_ _
      · exact nofun
      · exact trivial
  | ensureSession =>
      exact coherent.reserve.ensureSession (Nat.lt_succ_self _) fresh
  | autoRefresh =>
      exact coherent.reserve.autoRefresh (Nat.lt_succ_self _) fresh
  | saveTokens auth =>
      exact coherent.saveTokens auth
  | clearTokens =>
      exact coherent.clearTokens
  | setMarker present =>
      exact coherent.setMarker present
  | answer activity status =>
      exact coherent.answered activity status
  | body activity body =>
      exact coherent.bodyRead activity body
  | resume activity =>
      exact coherent.resumed activity

end Coherent

/-! ## The values of promises -/

/-- A promise which has a value keeps it. -/
def State.Keeps (before after : State Input Me) : Prop :=
  ∀ promise result, before.settled promise = some result → after.settled promise = some result

theorem State.Keeps.of_eq {before after : State Input Me}
    (same : after.settled = before.settled) : before.Keeps after :=
  fun _ _ value => same ▸ value

section Values

variable {activity : Nat}

theorem settled_refreshSession :
    (refreshSession settings state).1.settled = state.settled := by
  cases underWay : state.refreshPromise with
  | some promise =>
      rw [refreshSession_of_some underWay]
  | none =>
      rw [refreshSession_of_none underWay]
      rfl

theorem settled_ensureByRefresh :
    (ensureByRefresh settings state activity).settled = state.settled := by
  unfold ensureByRefresh
  split_ifs
  · exact settled_refreshSession
  · rfl

theorem settled_ensureSession :
    (ensureSession settings state activity).settled = state.settled := by
  unfold ensureSession
  split_ifs
  · rfl
  · exact settled_ensureByRefresh

theorem settled_autoRefresh :
    (autoRefresh settings state activity).settled = state.settled := by
  unfold autoRefresh
  split_ifs
  · exact settled_refreshSession
  · rfl

namespace Coherent

/-- Only the open promise gets a value. -/
theorem keeps_settle (coherent : Coherent settings state)
    (underWay : state.refreshPromise = some activity) {changed : State Input Me}
    (same : changed.settled = state.settled) (result : Option AuthResponse) :
    state.Keeps (Session.settle changed activity result) := by
  intro promise found value
  have other := (coherent.closed promise (Option.isSome_of_eq_some value)).2
  have apart : promise ≠ activity := fun own => other (own ▸ underWay)
  rw [settled_settle, if_neg apart, same]
  exact value

theorem keeps_raise (coherent : Coherent settings state) {caller : Caller}
    (owner : caller = .refresh ↔ state.refreshPromise = some activity) :
    state.Keeps (Session.raise settings state activity caller) := by
  cases caller with
  | page =>
      exact .of_eq rfl
  | refresh =>
      exact coherent.keeps_settle (owner.mp rfl) rfl none
  | check =>
      exact .of_eq settled_ensureByRefresh
  | load auth =>
      exact .of_eq rfl

theorem keeps_respond (coherent : Coherent settings state) {caller : Caller}
    (owner : caller = .refresh ↔ state.refreshPromise = some activity) (status : Nat) :
    state.Keeps (Session.respond state activity caller status) := by
  cases caller with
  | page =>
      exact .of_eq rfl
  | refresh =>
      rw [Session.respond]
      split_ifs
      · exact coherent.keeps_settle (owner.mp rfl) rfl _
      · exact .of_eq rfl
  | check =>
      exact .of_eq rfl
  | load auth =>
      exact .of_eq rfl

theorem keeps_readBody (coherent : Coherent settings state) {caller : Caller}
    (owner : caller = .refresh ↔ state.refreshPromise = some activity) (status : Nat)
    (body : Option Body) :
    state.Keeps (Session.readBody settings state activity caller status body) := by
  unfold Session.readBody
  cases body.filter fun _ => isOk status with
  | none =>
      exact coherent.keeps_raise owner
  | some body =>
      cases caller with
      | page =>
          exact .of_eq rfl
      | refresh =>
          exact coherent.keeps_settle (owner.mp rfl) rfl _
      | check =>
          cases state.currentAuth with
          | none =>
              exact coherent.keeps_raise owner
          | some current =>
              exact .of_eq rfl
      | load auth =>
          exact .of_eq rfl

theorem keeps_answered (coherent : Coherent settings state) (status : Option Nat) :
    state.Keeps (Session.answered settings state activity status) := by
  unfold Session.answered
  cases running : state.activities.get? activity with
  | none =>
      exact .of_eq rfl
  | some position =>
      cases position with
      | requesting call =>
          have owner := coherent.owner running rfl
          cases status with
          | none =>
              exact coherent.keeps_raise owner
          | some status =>
              dsimp only
              split_ifs
              · exact coherent.keeps_respond owner status
              · exact .of_eq settled_refreshSession
      | repeating call =>
          have owner := coherent.owner running rfl
          cases status with
          | none =>
              exact coherent.keeps_raise owner
          | some status =>
              exact coherent.keeps_respond owner status
      | _ =>
          exact .of_eq rfl

theorem keeps_bodyRead (coherent : Coherent settings state) (body : Option Body) :
    state.Keeps (Session.bodyRead settings state activity body) := by
  unfold Session.bodyRead
  cases running : state.activities.get? activity with
  | none =>
      exact .of_eq rfl
  | some position =>
      cases position with
      | reading caller status =>
          exact coherent.keeps_readBody (coherent.owner running rfl) status body
      | _ =>
          exact .of_eq rfl

theorem keeps_resumed (coherent : Coherent settings state) :
    state.Keeps (Session.resumed settings state activity) := by
  unfold Session.resumed
  cases running : state.activities.get? activity with
  | none =>
      exact .of_eq rfl
  | some position =>
      dsimp only
      cases position.promise?.bind state.settled with
      | none =>
          exact .of_eq rfl
      | some result =>
          cases position with
          | renewing call status awaited =>
              simp only [resumeWith]
              split
              · exact coherent.keeps_respond (coherent.owner running rfl) status
              · exact .of_eq rfl
          | ensuring awaited =>
              cases result with
              | none =>
                  exact .of_eq rfl
              | some auth =>
                  exact .of_eq rfl
          | _ =>
              exact .of_eq rfl

theorem keeps_step (coherent : Coherent settings state) (event : Event Input Body) :
    state.Keeps (Session.step settings state event) := by
  cases event with
  | ensureSession =>
      exact .of_eq settled_ensureSession
  | autoRefresh =>
      exact .of_eq settled_autoRefresh
  | answer activity status =>
      exact coherent.keeps_answered status
  | body activity body =>
      exact coherent.keeps_bodyRead body
  | resume activity =>
      exact coherent.keeps_resumed
  | _ =>
      exact .of_eq rfl

/-- All who wait for a promise go on with one value. -/
theorem keeps_run (coherent : Coherent settings state) (events : List (Event Input Body)) :
    state.Keeps ((page settings).run state events) := by
  induction events generalizing state with
  | nil =>
      exact .of_eq rfl
  | cons event rest inductionHypothesis =>
      intro promise result value
      exact inductionHypothesis (coherent.step event) promise result
        (coherent.keeps_step event promise result value)

end Coherent

end Values

/-! ## The number of requests -/

/-- The requests which may still be sent for a caller once it has its response. -/
def Caller.due : Caller → Nat
  | .check => 4
  | _ => 0

/-- The requests which may still be sent for a call. -/
def Activity.due : Activity Input → Nat
  | .requesting call => (if call.retryOnUnauthorized then 2 else 0) + call.caller.due
  | .renewing call _ _ => 1 + call.caller.due
  | .repeating call => call.caller.due
  | .reading caller _ => caller.due
  | .ensuring _ => 3
  | .ticking _ => 0

def State.dueAt (state : State Input Me) (activity : Nat) : Nat :=
  state.activities.weightAt Activity.due activity

/-- The requests which were sent, and those that may still come of the running calls. -/
def State.cost (state : State Input Me) : Nat :=
  state.sent.length + state.activities.weight Activity.due

/-- The requests which a call may lead to in all. -/
def Event.allowance : Event Input Body → Nat
  | .apiFetch _ _ _ => 3
  | .ensureSession => 7
  | .autoRefresh => 1
  | _ => 0

section Cost

variable {activity : Nat}

theorem cost_wait (given : activity < state.activities.next) (position : Activity Input) :
    (state.wait activity position).cost + state.dueAt activity =
      state.cost + position.due := by
  have exchanged := Pool.weight_set Activity.due given (some position)
  simp only [Option.elim_some] at exchanged
  simp only [State.cost, State.wait, State.dueAt]
  omega

theorem cost_finish (given : activity < state.activities.next) (outcome : Outcome Me) :
    (state.finish activity outcome).cost + state.dueAt activity = state.cost := by
  have exchanged := Pool.weight_set Activity.due given none
  simp only [Option.elim_none] at exchanged
  simp only [State.cost, State.finish, State.dueAt]
  omega

theorem cost_settle (given : activity < state.activities.next)
    (result : Option AuthResponse) :
    (settle state activity result).cost + state.dueAt activity = state.cost := by
  have exchanged := Pool.weight_set Activity.due given none
  simp only [Option.elim_none] at exchanged
  simp only [State.cost, settle, State.dueAt]
  omega

theorem cost_fetch (input : Input) (accessToken : Option String) :
    (fetch settings state activity input accessToken).cost = state.cost + 1 := by
  simp only [State.cost, fetch, List.length_cons]
  omega

theorem cost_reserve : state.reserve.cost = state.cost := by
  simp [State.cost, State.reserve]

theorem cost_apiFetch (given : activity < state.activities.next) (call : FetchCall Input)
    (accessToken : Option String) :
    (apiFetch settings state activity call accessToken).cost + state.dueAt activity =
      state.cost + 1 + (Activity.requesting call).due := by
  have waited := cost_wait given (.requesting call)
  rw [apiFetch, cost_fetch]
  omega

theorem dueAt_of_get? {position : Activity Input}
    (running : state.activities.get? activity = some position) :
    state.dueAt activity = position.due :=
  Pool.weightAt_of_get? Activity.due running

theorem dueAt_reserve_next : state.reserve.dueAt state.activities.next = 0 :=
  Pool.weightAt_of_none Activity.due (Pool.get?_next _)

/-- A refresh is one request, and none is due after it. -/
theorem cost_startRefresh : (startRefresh settings state).cost = state.cost + 1 := by
  have given : state.activities.next < state.reserve.activities.next := Nat.lt_succ_self _
  have sent := @cost_apiFetch _ _ _ settings _ _ given (refreshCall settings state) none
  rw [dueAt_reserve_next, cost_reserve] at sent
  exact sent

/-- Joining a refresh takes at most the request of a new one. -/
theorem cost_join (given : activity < state.activities.next) (position : Activity Input) :
    ((refreshSession settings state).1.wait activity position).cost + state.dueAt activity ≤
      state.cost + 1 + position.due := by
  cases underWay : state.refreshPromise with
  | some promise =>
      have waited := cost_wait given position
      rw [refreshSession_of_some underWay]
      dsimp only
      omega
  | none =>
      have given' : activity < (startRefresh settings state).activities.next :=
        given.trans (Nat.lt_succ_self _)
      have same : (startRefresh settings state).dueAt activity = state.dueAt activity := by
        rw [State.dueAt, Pool.weightAt, get?_startRefresh, if_neg given.ne]
        rfl
      have started := @cost_startRefresh _ _ _ settings state
      have waited := cost_wait given' position
      rw [same] at waited
      rw [refreshSession_of_none underWay]
      dsimp only
      omega

theorem cost_ensureByRefresh (given : activity < state.activities.next) :
    (ensureByRefresh settings state activity).cost + state.dueAt activity ≤
      state.cost + 4 := by
  unfold ensureByRefresh
  split_ifs
  · exact cost_join given _
  · have done := @cost_finish _ _ state.clearTokens _ given (.session none)
    exact done.le.trans (Nat.le_add_right _ _)

theorem cost_ensureSession (given : activity < state.activities.next) :
    (ensureSession settings state activity).cost + state.dueAt activity ≤
      state.cost + 7 := by
  unfold ensureSession
  split_ifs
  · exact (cost_apiFetch given _ _).le
  · exact (cost_ensureByRefresh given).trans (Nat.add_le_add_left (by decide) _)

theorem cost_autoRefresh (given : activity < state.activities.next) :
    (autoRefresh settings state activity).cost + state.dueAt activity ≤ state.cost + 1 := by
  unfold autoRefresh
  split_ifs
  · exact cost_join given _
  · exact (cost_finish given _).le.trans (Nat.le_add_right _ _)

theorem cost_raise (given : activity < state.activities.next) (caller : Caller) :
    (raise settings state activity caller).cost + state.dueAt activity ≤
      state.cost + caller.due := by
  cases caller with
  | page =>
      exact (cost_finish given _).le
  | refresh =>
      exact (@cost_settle _ _ state.clearTokens _ given none).le
  | check =>
      exact cost_ensureByRefresh given
  | load auth =>
      exact (@cost_finish _ _ state.clearTokens _ given _).le

theorem cost_refreshed (given : activity < state.activities.next) (auth : AuthResponse) :
    (refreshed state activity auth).cost + state.dueAt activity = state.cost :=
  @cost_settle _ _ (state.saveTokens _) _ given _

theorem cost_respond (given : activity < state.activities.next) (caller : Caller)
    (status : Nat) :
    (respond state activity caller status).cost + state.dueAt activity ≤
      state.cost + caller.due := by
  cases caller with
  | page =>
      exact (cost_finish given _).le
  | refresh =>
      rw [respond]
      split_ifs
      · exact (cost_refreshed given _).le
      · exact (cost_wait given _).le
  | check =>
      exact (cost_wait given _).le
  | load auth =>
      exact (cost_wait given _).le

theorem cost_readBody (given : activity < state.activities.next) (caller : Caller)
    (status : Nat) (body : Option Body) (works : state.dueAt activity = caller.due) :
    (readBody settings state activity caller status body).cost ≤ state.cost := by
  have raised := @cost_raise _ _ _ settings _ _ given caller
  unfold readBody
  cases body.filter fun _ => isOk status with
  | none =>
      dsimp only
      omega
  | some body =>
      cases caller with
      | page =>
          exact le_rfl
      | refresh =>
          have done := cost_refreshed given (settings.readAuth body)
          dsimp only
          omega
      | check =>
          cases state.currentAuth with
          | none =>
              dsimp only
              omega
          | some current =>
              have done := fun outcome => cost_finish given (outcome : Outcome Me)
              dsimp only
              exact Nat.le_of_add_right_le (done _).le
      | load auth =>
          exact Nat.le_of_add_right_le (cost_finish given _).le

theorem cost_answered (status : Option Nat) :
    (answered settings state activity status).cost ≤ state.cost := by
  unfold answered
  cases running : state.activities.get? activity with
  | none =>
      exact le_rfl
  | some position =>
      have given := Pool.lt_next_of_get? running
      have due := dueAt_of_get? running
      cases position with
      | requesting call =>
          have raised := @cost_raise _ _ _ settings _ _ given call.caller
          rw [Activity.due] at due
          cases status with
          | none =>
              dsimp only
              omega
          | some status =>
              have responded := cost_respond given call.caller status
              dsimp only
              split_ifs with final
              · omega
              · simp only [not_or, Bool.not_eq_false] at final
                rw [if_pos final.2] at due
                have joined := @cost_join _ _ _ settings _ _ given
                  (.renewing call status (refreshSession settings state).2)
                rw [Activity.due] at joined
                omega
      | repeating call =>
          have raised := @cost_raise _ _ _ settings _ _ given call.caller
          rw [Activity.due] at due
          cases status with
          | none =>
              dsimp only
              omega
          | some status =>
              have responded := cost_respond given call.caller status
              dsimp only
              omega
      | _ =>
          exact le_rfl

theorem cost_bodyRead (body : Option Body) :
    (bodyRead settings state activity body).cost ≤ state.cost := by
  unfold bodyRead
  cases running : state.activities.get? activity with
  | none =>
      exact le_rfl
  | some position =>
      cases position with
      | reading caller status =>
          exact cost_readBody (Pool.lt_next_of_get? running) caller status body
            (dueAt_of_get? running)
      | _ =>
          exact le_rfl

theorem cost_resumed : (resumed settings state activity).cost ≤ state.cost := by
  unfold resumed
  cases running : state.activities.get? activity with
  | none =>
      exact le_rfl
  | some position =>
      dsimp only
      have given := Pool.lt_next_of_get? running
      have due := dueAt_of_get? running
      cases position.promise?.bind state.settled with
      | none =>
          exact le_rfl
      | some result =>
          cases position with
          | renewing call status promise =>
              rw [Activity.due] at due
              simp only [resumeWith]
              split
              · have responded := cost_respond given call.caller status
                omega
              · have waited := cost_wait given (.repeating call)
                rw [Activity.due] at waited
                rw [cost_fetch]
                omega
          | ensuring promise =>
              rw [Activity.due] at due
              cases result with
              | none =>
                  exact Nat.le_of_add_right_le
                    (@cost_finish _ _ state.clearTokens _ given _).le
              | some auth =>
                  have sent := @cost_apiFetch _ _ _ settings _ _ given
                    ⟨settings.meInput, true, .load auth⟩ auth.accessToken
                  simp only [Activity.due, Caller.due, if_true] at sent
                  simp only [resumeWith]
                  omega
          | ticking promise =>
              exact Nat.le_of_add_right_le (cost_finish given _).le
          | _ =>
              exact le_rfl

/-- A step spends at most what its event allows. -/
theorem cost_step (state : State Input Me) (event : Event Input Body) :
    (step settings state event).cost ≤ state.cost + event.allowance := by
  have given : state.activities.next < state.reserve.activities.next := Nat.lt_succ_self _
  have fresh := @dueAt_reserve_next _ _ state
  have same := @cost_reserve _ _ state
  cases event with
  | apiFetch input accessToken retryOnUnauthorized =>
      have sent := @cost_apiFetch _ _ _ settings _ _ given ⟨input, retryOnUnauthorized, .page⟩
        accessToken
      simp only [Activity.due, Caller.due] at sent
      simp only [step, Event.allowance]
      split_ifs at sent <;> omega
  | ensureSession =>
      have sent := @cost_ensureSession _ _ _ settings _ _ given
      simp only [step, Event.allowance]
      omega
  | autoRefresh =>
      have sent := @cost_autoRefresh _ _ _ settings _ _ given
      simp only [step, Event.allowance]
      omega
  | answer activity status =>
      exact cost_answered status
  | body activity body =>
      exact cost_bodyRead body
  | resume activity =>
      exact cost_resumed
  | _ =>
      exact le_rfl

end Cost

/-! ## Runs -/

theorem cost_run (events : List (Event Input Body)) (state : State Input Me) :
    ((page settings).run state events).cost ≤
      state.cost + (events.map Event.allowance).sum := by
  induction events generalizing state with
  | nil =>
      exact le_rfl
  | cons event rest inductionHypothesis =>
      have spent : ((page settings).step state event).cost ≤ _ := cost_step state event
      have later := inductionHypothesis ((page settings).step state event)
      rw [List.map_cons, List.sum_cons, Machine.run_cons]
      omega

theorem coherent_initial (marker : Bool) (deviceId : Option String) :
    Coherent settings (State.initial marker deviceId : State Input Me) where
  single _ := iff_of_false nofun nofun
  form _ _ running := nomatch running
  promised _ _ _ running := nomatch running
  closed _ value := nomatch value
  current _ same := nomatch same
  settled _ _ given := nomatch given
  returned _ _ member := nomatch member

/-- Whatever the page calls and the network answers, in whatever order: at most one
refresh is under way, nobody waits for one that never ends, all who wait for it get the same
value, no refresh token is kept or returned, and no call is repeated without end. -/
theorem session_protocol (settings : Settings Input Body Me) (marker : Bool)
    (deviceId : Option String) (events later : List (Event Input Body)) :
    Coherent settings ((page settings).run (State.initial marker deviceId) events) ∧
      ((page settings).run (State.initial marker deviceId) events).Keeps
        ((page settings).run (State.initial marker deviceId) (events ++ later)) ∧
      ((page settings).run (State.initial marker deviceId) events).sent.length ≤
        (events.map Event.allowance).sum := by
  have start := @coherent_initial _ _ _ settings marker deviceId
  have coherent := (page settings).run_preserves (Coherent settings)
    (fun _ event coherent => coherent.step event) start events
  have spent := @cost_run _ _ _ settings events (State.initial marker deviceId)
  have nothing : (State.initial marker deviceId : State Input Me).cost = 0 := rfl
  refine ⟨coherent, ?_, ?_⟩
  · rw [Machine.run_append]
    exact coherent.keeps_run later
  · rw [State.cost] at spent
    omega

end Tchuno.Web.Session
