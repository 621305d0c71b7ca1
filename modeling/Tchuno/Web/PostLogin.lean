import Tchuno.Library.RelativeUrls

/-!
# Paths after the login

`resolvePostLoginPath` checks the path to which a browser is sent after the login.  The checks
read the text as it stands; the browser reads the address it stands for.
-/

namespace Tchuno.Web

open Tchuno.Library Tchuno.Library.JsString

inductive AppRole where
  | guest | customer | provider | admin | supportAdmin | opsAdmin | superAdmin
  deriving DecidableEq

inductive AccessScope where
  | publicScope | customer | provider | admin
  deriving DecidableEq

/-- `text.startsWith(start)` -/
def startsWith (start text : JsString) : Bool :=
  start.isPrefixOf text

def isSafeInternalPath (path : Option JsString) : Bool :=
  match path with
  | none => false
  | some path =>
      if path.length = 0 then false
      else
        let normalized := path.trim
        if normalized.length = 0 then false
        else if !startsWith (ofString "/") normalized then false
        else if startsWith (ofString "//") normalized then false
        else true

/-- `path.split(/[?#]/, 1)` gives the text before the first of these marks. -/
def normalizeInternalPath (path : JsString) : JsString :=
  let pathname := path.takeWhile fun unit => !endsPath unit
  if pathname.length = 0 then path else pathname

/-- The path itself or one below it. -/
def isWithin (area pathname : JsString) : Bool :=
  pathname = area || startsWith (area ++ ofString "/") pathname

def getAccessScopeForPath (path : Option JsString) : AccessScope :=
  if !isSafeInternalPath path then .publicScope
  else
    let pathname := normalizeInternalPath (path.getD [])
    if isWithin (ofString "/admin") pathname then .admin
    else if isWithin (ofString "/pro") pathname then .provider
    else if isWithin (ofString "/app") pathname then .customer
    else .publicScope

def canRoleAccessPath (role : AppRole) (path : Option JsString) : Bool :=
  match getAccessScopeForPath path with
  | .publicScope => true
  | .customer => role = .customer
  | .provider => role = .provider
  | .admin => role = .admin || role = .opsAdmin || role = .supportAdmin || role = .superAdmin

structure PostLoginInput where
  nextPath : Option JsString
  fallbackPath : Option JsString
  role : Option AppRole

section Input

variable (input : Option PostLoginInput)

def fallbackPath : JsString :=
  (input.bind PostLoginInput.fallbackPath).getD (ofString "/app")

def nextPath : Option JsString :=
  input.bind PostLoginInput.nextPath

def appRole : AppRole :=
  (input.bind PostLoginInput.role).getD .guest

def resolvePostLoginPath : JsString :=
  if !isSafeInternalPath (nextPath input) then fallbackPath input
  else if !canRoleAccessPath (appRole input) (nextPath input) then fallbackPath input
  else (nextPath input).getD []

end Input

/-! ## Where a path leads -/

section Landing

variable (elsewhere : JsString → Option Destination) (role : AppRole)

def isInside (destination : Destination) : Bool :=
  destination.sameOrigin && canRoleAccessPath role (some destination.pathname)

/-- The browser stays with the application, in a scope of the role. -/
def landsInside (path : JsString) : Bool :=
  (resolveAgainstOrigin elsewhere path).any (isInside role)

/-- As the browser reads it the path names no other host, and the segment with which it
begins, once its dots are resolved, is open to the role. -/
def staysOpen (path : JsString) : Bool :=
  let text := readAsUrl path
  if namesHost text then (elsewhere text).any (isInside role)
  else canRoleAccessPath role (some (0x2F :: (pathSegments text).headD []))

end Landing

/-! ## Scopes -/

/-- The scope of the paths which begin with a segment. -/
def areaScope (segment : JsString) : AccessScope :=
  if segment = ofString "admin" then .admin
  else if segment = ofString "pro" then .provider
  else if segment = ofString "app" then .customer
  else .publicScope

/-- What stands behind a segment: nothing or a slash. -/
def IsTail (tail : JsString) : Prop :=
  tail = [] ∨ ∃ rest, tail = 0x2F :: rest

theorem isWithin_iff {area word tail : JsString} (areaFree : 0x2F ∉ area)
    (wordFree : 0x2F ∉ word) (isTail : IsTail tail) :
    isWithin (0x2F :: area) (0x2F :: (word ++ tail)) = true ↔ word = area := by
  rw [isWithin, Bool.or_eq_true, decide_eq_true_eq, startsWith, List.isPrefixOf_iff_prefix]
  have slash : ofString "/" = [0x2F] := by
    decide
  rw [slash, List.cons_append, List.cons_inj_right, List.prefix_cons_inj]
  rcases isTail with rfl | ⟨rest, rfl⟩
  · rw [List.append_nil]
    constructor
    · rintro (same | ⟨rest, joined⟩)
      · exact same
      · have inside : 0x2F ∈ word := by
          rw [← joined]
          simp
        exact absurd inside wordFree
    · exact .inl
  · constructor
    · rintro (same | ⟨later, joined⟩)
      · have inside : 0x2F ∈ area := by
          rw [← same]
          simp
        exact absurd inside areaFree
      · have shape : area ++ 0x2F :: later = word ++ 0x2F :: rest := by
          rw [← joined]
          simp
        exact (Ecma.append_cons_inj_of_notMem areaFree wordFree shape).1.symm
    · intro same
      right
      exact ⟨rest, by rw [same]; simp⟩

/-- A path with one slash at its beginning is safe. -/
theorem isSafeInternalPath_of_single {path : JsString}
    (single : ¬ ofString "//" <+: 0x2F :: path) :
    isSafeInternalPath (some (0x2F :: path)) = true := by
  have ⟨isPrefix, filled⟩ := @trim_shortens 0x2F path (by decide)
  have begins : ofString "/" <+: trim (0x2F :: path) := by
    cases trimmed : trim (0x2F :: path) with
    | nil =>
        exact absurd trimmed filled
    | cons first rest =>
        rw [trimmed] at isPrefix
        rw [(List.cons_prefix_cons.mp isPrefix).1]
        exact ⟨rest, rfl⟩
  have notDouble : ¬ ofString "//" <+: trim (0x2F :: path) :=
    fun double => single (double.trans isPrefix)
  have long : (trim (0x2F :: path)).length ≠ 0 := fun none =>
    filled (List.length_eq_zero_iff.mp none)
  have first := List.isPrefixOf_iff_prefix.mpr begins
  have second : (ofString "//").isPrefixOf (trim (0x2F :: path)) = false :=
    Bool.eq_false_iff.mpr fun double => notDouble (List.isPrefixOf_iff_prefix.mp double)
  simp [isSafeInternalPath, startsWith, long, first, second]

/-- The scope of a path depends on its first segment only. -/
theorem getAccessScopeForPath_eq {word tail : JsString} (wordFree : 0x2F ∉ word)
    (isTail : IsTail tail) (whole : ∀ unit ∈ word ++ tail, endsPath unit = false) :
    getAccessScopeForPath (some (0x2F :: (word ++ tail))) = areaScope word := by
  have pathname : normalizeInternalPath (0x2F :: (word ++ tail)) = 0x2F :: (word ++ tail) := by
    have all : (0x2F :: (word ++ tail)).takeWhile (fun unit => !endsPath unit) =
        0x2F :: (word ++ tail) := by
      apply List.takeWhile_eq_self_iff.mpr
      intro unit member
      rcases List.mem_cons.mp member with rfl | inside
      · decide
      · rw [whole unit inside]
        rfl
    rw [normalizeInternalPath, all]
    rfl
  have areas : ∀ area : JsString, 0x2F ∉ area →
      isWithin (0x2F :: area) (0x2F :: (word ++ tail)) = decide (word = area) := by
    intro area areaFree
    rw [Bool.eq_iff_iff, isWithin_iff areaFree wordFree isTail, decide_eq_true_eq]
  have scope : (if isWithin (ofString "/admin") (0x2F :: (word ++ tail)) then AccessScope.admin
      else if isWithin (ofString "/pro") (0x2F :: (word ++ tail)) then .provider
      else if isWithin (ofString "/app") (0x2F :: (word ++ tail)) then .customer
      else .publicScope) = areaScope word := by
    have first : ofString "/admin" = 0x2F :: ofString "admin" := by
      decide
    have second : ofString "/pro" = 0x2F :: ofString "pro" := by
      decide
    have third : ofString "/app" = 0x2F :: ofString "app" := by
      decide
    rw [first, second, third, areas _ (by decide), areas _ (by decide), areas _ (by decide)]
    simp only [decide_eq_true_eq]
    rfl
  have opened : areaScope [] = .publicScope := by
    decide
  cases safe : isSafeInternalPath (some (0x2F :: (word ++ tail))) with
  | true =>
      rw [getAccessScopeForPath, safe]
      simp only [Bool.not_true, Bool.false_eq_true, if_false, Option.getD_some, pathname]
      exact scope
  | false =>
      -- only a second slash makes the path unsafe
      have bare : word = [] := by
        by_contra filled
        obtain ⟨first, rest, rfl⟩ := List.exists_cons_of_ne_nil filled
        have single : ¬ ofString "//" <+: 0x2F :: (first :: rest ++ tail) := by
          intro double
          have second := (List.cons_prefix_cons.mp (List.cons_prefix_cons.mp double).2).1
          exact wordFree (second ▸ List.mem_cons_self)
        rw [isSafeInternalPath_of_single single] at safe
        cases safe
      rw [getAccessScopeForPath, safe, bare, opened]
      rfl

theorem notMem_of_isSegment {segment : JsString} (isSegment : IsSegment segment) :
    0x2F ∉ segment :=
  fun member => absurd (isSegment _ member).1 (by decide)

theorem areaScope_percentEncode (segment : JsString) :
    areaScope (percentEncode segment) = areaScope segment := by
  have admin := @percentEncode_eq_iff segment (ofString "admin") (by decide) (by decide)
  have pro := @percentEncode_eq_iff segment (ofString "pro") (by decide) (by decide)
  have app := @percentEncode_eq_iff segment (ofString "app") (by decide) (by decide)
  simp only [areaScope, admin, pro, app]

/-- A pathname is open to a role exactly if its first segment is. -/
theorem canRoleAccessPath_pathnameOf (role : AppRole) {segments : List JsString}
    (filled : segments ≠ []) (isSegment : ∀ segment ∈ segments, IsSegment segment) :
    canRoleAccessPath role (some (pathnameOf segments)) =
      canRoleAccessPath role (some (0x2F :: segments.headD [])) := by
  obtain ⟨segment, rest, rfl⟩ := List.exists_cons_of_ne_nil filled
  have own := isSegment segment List.mem_cons_self
  have isTail : IsTail (pathnameOf rest) := by
    cases rest with
    | nil =>
        exact .inl rfl
    | cons next later =>
        exact .inr ⟨_, rfl⟩
  have encodedFree : 0x2F ∉ percentEncode segment := fun member =>
    absurd (percentEncode_noSlash own _ member) (by decide)
  have plain : ∀ unit ∈ pathnameOf (segment :: rest), endsPath unit = false := by
    intro unit member
    obtain ⟨piece, _, inside⟩ := List.mem_flatMap.mp member
    rcases List.mem_cons.mp inside with rfl | encoded
    · decide
    · have visible := percentEncode_plain piece unit encoded
      simp only [isPlain, Bool.and_eq_true, Bool.not_eq_true'] at visible
      exact visible.2
  have encodedScope : getAccessScopeForPath (some (pathnameOf (segment :: rest))) =
      areaScope segment := by
    have shape : pathnameOf (segment :: rest) =
        0x2F :: (percentEncode segment ++ pathnameOf rest) := rfl
    rw [shape, getAccessScopeForPath_eq encodedFree isTail fun unit member =>
      plain unit (shape ▸ List.mem_cons_of_mem _ member), areaScope_percentEncode]
  have rawScope : getAccessScopeForPath (some (0x2F :: segment)) = areaScope segment := by
    have alone := @getAccessScopeForPath_eq segment [] (notMem_of_isSegment own) (.inl rfl)
    rw [List.append_nil] at alone
    exact alone fun unit member => (own unit member).2
  rw [canRoleAccessPath, canRoleAccessPath, encodedScope, List.headD_cons, rawScope]

/-! ## Accepted paths -/

/-- The first unit that is read is the first one which is neither control nor space. -/
theorem head?_readAsUrl {input : JsString} {first : UInt16} {rest : JsString}
    (begins : input.dropWhile isControlOrSpace = first :: rest) :
    (readAsUrl input).head? = some first := by
  have solid : isControlOrSpace first = false := by
    have head := List.head?_dropWhile_not isControlOrSpace input
    rw [begins] at head
    simpa using head
  have kept : isTabOrLineEnd first = false := by
    unfold isControlOrSpace at solid
    unfold isTabOrLineEnd
    simp only [decide_eq_false_iff_not, UInt16.le_iff_toNat_le, Bool.or_eq_false_iff] at solid ⊢
    refine ⟨⟨?_, ?_⟩, ?_⟩ <;>
    · rintro rfl
      exact solid (by decide)
  obtain ⟨cut, shape⟩ : ∃ cut, (first :: rest).rdropWhile isControlOrSpace = first :: cut := by
    cases dropped : (first :: rest).rdropWhile isControlOrSpace with
    | nil =>
        have blank := List.rdropWhile_eq_nil_iff.mp dropped first List.mem_cons_self
        rw [solid] at blank
        cases blank
    | cons head cut =>
        have isPrefix := List.rdropWhile_prefix isControlOrSpace (first :: rest)
        rw [dropped] at isPrefix
        exact ⟨cut, by rw [(List.cons_prefix_cons.mp isPrefix).1]⟩
  rw [readAsUrl, begins, shape, List.filter_cons_of_pos (by rw [kept]; rfl)]
  rfl

/-- Where two ways to skip the beginning of a text differ, the second one ends at a unit
which the first one skips. -/
theorem exists_dropWhile_eq {skips stops : UInt16 → Bool} {text rest : JsString} {unit : UInt16}
    (skipped : text.dropWhile skips = unit :: rest) (solid : stops unit = false) :
    ∃ first later, text.dropWhile stops = first :: later ∧
      (skips first = true ∨ first = unit) := by
  induction text with
  | nil =>
      cases skipped
  | cons head tail inductionHypothesis =>
      rw [List.dropWhile_cons] at skipped ⊢
      cases stopped : stops head with
      | false =>
          refine ⟨head, tail, rfl, ?_⟩
          cases skip : skips head with
          | true =>
              exact .inl rfl
          | false =>
              rw [skip] at skipped
              exact .inr (List.cons.inj skipped).1
      | true =>
          cases skip : skips head with
          | true =>
              rw [skip] at skipped
              exact inductionHypothesis skipped
          | false =>
              rw [skip] at skipped
              rw [(List.cons.inj skipped).1, solid] at stopped
              cases stopped

theorem isAsciiLetter_of_isWhiteSpace {unit : UInt16} (blank : isWhiteSpace unit = true) :
    isAsciiLetter unit = false := by
  unfold isWhiteSpace at blank
  rw [Bool.or_eq_true, decide_eq_true_eq, Bool.and_eq_true, decide_eq_true_eq] at blank
  rcases blank with listed | ⟨high, _⟩
  · revert unit
    have none : ([0x09, 0x0A, 0x0B, 0x0C, 0x0D, 0x20, 0xA0, 0x1680, 0x2028, 0x2029, 0x202F,
        0x205F, 0x3000, 0xFEFF] : JsString).all (fun unit => !isAsciiLetter unit) = true := by
      decide
    intro unit listed
    simpa using List.all_eq_true.mp none unit listed
  · have bound : 0x2000 ≤ unit.toNat := UInt16.le_iff_toNat_le.mp high
    unfold isAsciiLetter
    simp only [Bool.or_eq_false_iff, Bool.and_eq_false_iff, decide_eq_false_iff_not,
      UInt16.le_iff_toNat_le]
    have upper : (0x5A : UInt16).toNat = 0x5A := rfl
    have lower : (0x7A : UInt16).toNat = 0x7A := rfl
    omega

/-- A path which the check accepts names no scheme. -/
theorem namesScheme_of_safe {next : JsString} (safe : isSafeInternalPath (some next) = true) :
    namesScheme (readAsUrl next) = false := by
  have begins : startsWith (ofString "/") next.trim = true := by
    cases starts : startsWith (ofString "/") next.trim with
    | true =>
        rfl
    | false =>
        simp [isSafeInternalPath, starts] at safe
  obtain ⟨rest, slash⟩ := List.isPrefixOf_iff_prefix.mp begins
  have cut : next.trim <+: next.dropWhile isWhiteSpace :=
    List.rdropWhile_prefix isWhiteSpace _
  obtain ⟨later, opening⟩ : ∃ later, next.dropWhile isWhiteSpace = 0x2F :: later := by
    obtain ⟨after, whole⟩ := cut
    exact ⟨rest ++ after, by rw [← whole, ← slash]; rfl⟩
  obtain ⟨first, others, read, kind⟩ := exists_dropWhile_eq opening
    (show isControlOrSpace 0x2F = false by decide)
  have head := head?_readAsUrl read
  have letter : isAsciiLetter first = false := by
    rcases kind with blank | rfl
    · exact isAsciiLetter_of_isWhiteSpace blank
    · decide
  cases text : readAsUrl next with
  | nil =>
      rfl
  | cons unit remaining =>
      rw [text, List.head?_cons, Option.some.injEq] at head
      rw [namesScheme, head, letter]
      rfl

/-- The path to which the login leads stays inside exactly if the next path is refused or
stays open to the role. -/
theorem postLogin_inside_iff (elsewhere : JsString → Option Destination)
    {input : Option PostLoginInput}
    (safe : landsInside elsewhere (appRole input) (fallbackPath input) = true) :
    landsInside elsewhere (appRole input) (resolvePostLoginPath input) = true ↔
      ∀ next, nextPath input = some next → isSafeInternalPath (some next) = true →
        canRoleAccessPath (appRole input) (some next) = true →
          staysOpen elsewhere (appRole input) next = true := by
  have landing : ∀ next, isSafeInternalPath (some next) = true →
      landsInside elsewhere (appRole input) next = staysOpen elsewhere (appRole input) next := by
    intro next accepted
    unfold landsInside resolveAgainstOrigin staysOpen
    dsimp only
    rw [namesScheme_of_safe accepted, Bool.false_or]
    cases namesHost (readAsUrl next) with
    | true =>
        rfl
    | false =>
        have opens := canRoleAccessPath_pathnameOf (appRole input)
          (pathSegments_ne_nil (readAsUrl next)) (isSegment_of_mem_pathSegments _)
        exact opens
  unfold resolvePostLoginPath
  cases given : nextPath input with
  | none =>
      have refused : isSafeInternalPath none = false := rfl
      rw [refused]
      simpa using safe
  | some next =>
      cases accepted : isSafeInternalPath (some next) with
      | false =>
          simpa [accepted] using safe
      | true =>
          cases opened : canRoleAccessPath (appRole input) (some next) with
          | false =>
              simpa [accepted, opened] using safe
          | true =>
              simp [accepted, opened, landing next accepted]

/-! ## Logins -/

/-- Every host that is named belongs to somebody else. -/
def foreignHosts : JsString → Option Destination :=
  fun _ => some ⟨false, ofString "/"⟩

/-- A customer who goes to a path after the login. -/
def customerLogin (next : String) : Option PostLoginInput :=
  some ⟨some (ofString next), some (ofString "/app"), some .customer⟩

theorem postLogin_inside_orders :
    landsInside foreignHosts .customer (resolvePostLoginPath (customerLogin "/app/x")) = true :=
  (@postLogin_inside_iff foreignHosts (customerLogin "/app/x") (by decide +kernel)).mpr (by
    intro next given _ _
    obtain rfl := Option.some.inj given
    decide +kernel)

/-- The backslash leads to another host; dots, a blank or a tab lead into the pages of the
administration. -/
theorem next_paths_escape :
    landsInside foreignHosts .customer (ofString "/app") = true ∧
      ∀ next ∈ ["/\\evil.com", "/\t/evil.com", "/x/../admin", " /admin", "/ad\tmin"],
        landsInside foreignHosts .customer (resolvePostLoginPath (customerLogin next)) = false := by
  decide +kernel

end Tchuno.Web
