import Tchuno.Library.Texts
import Tchuno.Library.UriComponents

/-!
# The refresh cookie

`readRefreshToken` decodes the value of every pair of the header before it looks one
up, so that one malformed neighbour makes the whole request fail.
-/

namespace Tchuno.Auth

open Tchuno.Library.Ecma

/-! ## The header -/

def refreshCookieName : String :=
  "tchuno_refresh_token"

/-- What `decodeURIComponent` throws. -/
inductive UriError where
  | uriMalformed
  deriving DecidableEq, Repr

/-- The own properties of the record that the parser fills. -/
abbrev CookieRecord :=
  String → Option String

/-- `acc[key] = value`; assigning a text to `__proto__` creates no property. -/
def CookieRecord.assign (cookies : CookieRecord) (key value : String) : CookieRecord :=
  fun name => if name = key ∧ key ≠ "__proto__" then some value else cookies name

/-- The name and the value of one part, trimmed; a part without a name has none. -/
def cookiePair? (part : List Char) : Option (String × String) :=
  let separatorIndex := part.idxOf '='
  if '=' ∉ part ∨ separatorIndex = 0 then
    none
  else
    let key := trim (String.ofList (part.take separatorIndex))
    let value := trim (String.ofList (part.drop (separatorIndex + 1)))
    if key = "" then none else some (key, value)

/-- `rawCookieHeader.split(';').map(trim).filter(part => part.length > 0)` -/
def cookieParts (rawCookieHeader : String) : List (List Char) :=
  ((rawCookieHeader.toList.splitOn ';').map fun part =>
    (trim (String.ofList part)).toList).filter fun part => 0 < part.length

def readPart (cookies : CookieRecord) (part : List Char) : Except UriError CookieRecord :=
  match cookiePair? part with
  | none => .ok cookies
  | some (key, value) =>
      match decodeURIComponent value with
      | none => .error .uriMalformed
      | some decoded => .ok (cookies.assign key decoded)

def parseCookieHeader (rawCookieHeader : Option String) : Except UriError CookieRecord :=
  match truthy rawCookieHeader with
  | none => .ok fun _ => none
  | some header => (cookieParts header).foldlM readPart fun _ => none

def readRefreshToken (cookieHeader : Option String) : Except UriError (Option String) := do
  let cookies ← parseCookieHeader cookieHeader
  return cookies refreshCookieName

/-! ## The pairs of a header -/

/-- The pairs of a header, in their order. -/
def cookiePairs (cookieHeader : Option String) : List (String × String) :=
  match truthy cookieHeader with
  | none => []
  | some header => (cookieParts header).filterMap cookiePair?

/-- The values that a header gives one name. -/
def cookieValues (name : String) (cookieHeader : Option String) : List String :=
  ((cookiePairs cookieHeader).filter fun pair => pair.1 = name).map Prod.snd

/-- The values of all the pairs are well-formed. -/
def AllDecodable (pairs : List (String × String)) : Prop :=
  ∀ pair ∈ pairs, (decodeURIComponent pair.2).isSome

instance (pairs : List (String × String)) : Decidable (AllDecodable pairs) :=
  inferInstanceAs (Decidable (∀ pair ∈ pairs, (decodeURIComponent pair.2).isSome))

theorem allDecodable_cons {pair : String × String} {pairs : List (String × String)} :
    AllDecodable (pair :: pairs) ↔
      (decodeURIComponent pair.2).isSome ∧ AllDecodable pairs := by
  simp [AllDecodable]

/-! ## The parse -/

theorem readPart_of_none {cookies : CookieRecord} {part : List Char}
    (unnamed : cookiePair? part = none) : readPart cookies part = .ok cookies := by
  simp [readPart, unnamed]

theorem readPart_of_some {cookies : CookieRecord} {part : List Char} {key value decoded : String}
    (named : cookiePair? part = some (key, value))
    (readable : decodeURIComponent value = some decoded) :
    readPart cookies part = .ok (cookies.assign key decoded) := by
  simp [readPart, named, readable]

theorem readPart_of_malformed {cookies : CookieRecord} {part : List Char} {key value : String}
    (named : cookiePair? part = some (key, value))
    (malformed : decodeURIComponent value = none) :
    readPart cookies part = .error .uriMalformed := by
  simp [readPart, named, malformed]

/-- The parse ends exactly when every pair can be decoded. -/
theorem foldlM_readPart_isOk (parts : List (List Char)) (cookies : CookieRecord) :
    (∃ filled, parts.foldlM readPart cookies = .ok filled) ↔
      AllDecodable (parts.filterMap cookiePair?) := by
  induction parts generalizing cookies with
  | nil =>
      have trivially : AllDecodable [] := fun _ member => by cases member
      exact ⟨fun _ => trivially, fun _ => ⟨cookies, rfl⟩⟩
  | cons part parts inductionHypothesis =>
      rw [List.foldlM_cons]
      cases named : cookiePair? part with
      | none =>
          rw [readPart_of_none named, List.filterMap_cons_none named]
          exact inductionHypothesis cookies
      | some pair =>
          obtain ⟨key, value⟩ := pair
          rw [List.filterMap_cons_some named, allDecodable_cons]
          cases readable : decodeURIComponent value with
          | none =>
              rw [readPart_of_malformed named readable]
              simp [bind, Except.bind]
          | some decoded =>
              rw [readPart_of_some named readable]
              have later := inductionHypothesis (cookies.assign key decoded)
              simpa [bind, Except.bind, readable] using later

/-- The decoded values that some pairs give one name. -/
def decodedValues (name : String) (pairs : List (String × String)) : List String :=
  (pairs.filter fun pair => pair.1 = name).filterMap fun pair => decodeURIComponent pair.2

theorem decodedValues_cons_self {name value decoded : String} {pairs : List (String × String)}
    (readable : decodeURIComponent value = some decoded) :
    decodedValues name ((name, value) :: pairs) = decoded :: decodedValues name pairs := by
  simp [decodedValues, readable]

theorem decodedValues_cons_of_ne {name key value : String} {pairs : List (String × String)}
    (other : key ≠ name) :
    decodedValues name ((key, value) :: pairs) = decodedValues name pairs := by
  simp [decodedValues, other]

/-- A name keeps the last of its values. -/
theorem foldlM_readPart_apply {name : String} (own : name ≠ "__proto__")
    (parts : List (List Char)) {cookies filled : CookieRecord}
    (parsed : parts.foldlM readPart cookies = .ok filled) :
    filled name =
      (decodedValues name (parts.filterMap cookiePair?)).getLast?.or (cookies name) := by
  induction parts generalizing cookies with
  | nil =>
      simp only [List.foldlM_nil, pure, Except.pure, Except.ok.injEq] at parsed
      rw [parsed]
      rfl
  | cons part parts inductionHypothesis =>
      rw [List.foldlM_cons] at parsed
      cases named : cookiePair? part with
      | none =>
          rw [readPart_of_none named] at parsed
          rw [List.filterMap_cons_none named]
          exact inductionHypothesis parsed
      | some pair =>
          obtain ⟨key, value⟩ := pair
          rw [List.filterMap_cons_some named]
          cases readable : decodeURIComponent value with
          | none =>
              rw [readPart_of_malformed named readable] at parsed
              cases parsed
          | some decoded =>
              rw [readPart_of_some named readable] at parsed
              rw [inductionHypothesis parsed]
              by_cases same : key = name
              · subst same
                have stored : cookies.assign key decoded key = some decoded :=
                  if_pos ⟨rfl, own⟩
                rw [decodedValues_cons_self readable, stored, List.getLast?_cons]
                cases (decodedValues key (parts.filterMap cookiePair?)).getLast? <;> rfl
              · have kept : cookies.assign key decoded name = cookies name :=
                  if_neg fun both => same both.1.symm
                rw [decodedValues_cons_of_ne same, kept]

/-! ## Reading the token -/

/-- An absent or empty header reads like one without parts. -/
theorem readRefreshToken_parts (cookieHeader : Option String) :
    ∃ parts : List (List Char), cookiePairs cookieHeader = parts.filterMap cookiePair? ∧
      readRefreshToken cookieHeader =
        (parts.foldlM readPart fun _ => none).map fun cookies => cookies refreshCookieName := by
  cases present : truthy cookieHeader with
  | none =>
      exact ⟨[], by simp [cookiePairs, present], by
        simp [readRefreshToken, parseCookieHeader, present, bind, Except.bind, pure,
          Except.pure, Except.map]⟩
  | some header =>
      exact ⟨cookieParts header, by simp [cookiePairs, present], by
        simp [readRefreshToken, parseCookieHeader, present, bind, Except.bind, pure,
          Except.pure, Except.map]⟩

/-- The token can be read exactly when every pair of the header can be decoded. -/
theorem readRefreshToken_isOk (cookieHeader : Option String) :
    (∃ token, readRefreshToken cookieHeader = .ok token) ↔
      AllDecodable (cookiePairs cookieHeader) := by
  obtain ⟨parts, pairs, read⟩ := readRefreshToken_parts cookieHeader
  rw [pairs, read, ← foldlM_readPart_isOk parts fun _ => none]
  cases parts.foldlM readPart fun _ => none with
  | error failure =>
      simp [Except.map]
  | ok cookies =>
      simp [Except.map]

/-- What is read is the last of the values. -/
theorem readRefreshToken_of_decodable {cookieHeader : Option String}
    (decodable : AllDecodable (cookiePairs cookieHeader)) :
    readRefreshToken cookieHeader =
      .ok (decodedValues refreshCookieName (cookiePairs cookieHeader)).getLast? := by
  obtain ⟨parts, pairs, read⟩ := readRefreshToken_parts cookieHeader
  rw [pairs] at decodable
  have ⟨cookies, parsed⟩ := (foldlM_readPart_isOk parts fun _ => none).mpr decodable
  have own : refreshCookieName ≠ "__proto__" := by decide
  have stored := foldlM_readPart_apply own parts parsed
  rw [Option.or_none] at stored
  rw [read, parsed, pairs, Except.map, stored]

/-- The refresh cookie is read whatever else is in the header. -/
def ReadsRefreshCookie (cookieHeader : Option String) : Prop :=
  (∃ token, readRefreshToken cookieHeader = .ok token) ∧
    ∀ value decoded, cookieValues refreshCookieName cookieHeader = [value] →
      decodeURIComponent value = some decoded →
        readRefreshToken cookieHeader = .ok (some decoded)

theorem decodedValues_eq (name : String) (cookieHeader : Option String) :
    decodedValues name (cookiePairs cookieHeader) =
      (cookieValues name cookieHeader).filterMap decodeURIComponent := by
  rw [cookieValues, List.filterMap_map]
  rfl

/-- The refresh cookie is read as long as no pair of the header is malformed. -/
theorem refreshCookie_read_iff (cookieHeader : Option String) :
    ReadsRefreshCookie cookieHeader ↔ AllDecodable (cookiePairs cookieHeader) := by
  constructor
  · intro reads
    exact (readRefreshToken_isOk cookieHeader).mp reads.1
  · intro decodable
    have ends := (readRefreshToken_isOk cookieHeader).mpr decodable
    refine ⟨ends, ?_⟩
    intro value decoded only readable
    rw [readRefreshToken_of_decodable decodable, decodedValues_eq, only]
    simp [readable]

/-- A malformed neighbour makes the token unreadable. -/
theorem malformed_neighbour_aborts : ¬ ∀ cookieHeader, ReadsRefreshCookie cookieHeader := by
  intro always
  have ends := (readRefreshToken_isOk (some "theme=%; tchuno_refresh_token=abc")).mp
    (always _).1
  revert ends
  decide +kernel

end Tchuno.Auth
