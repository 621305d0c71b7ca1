import Mathlib.Data.List.Infix
import Mathlib.Data.List.DropRight
import Tchuno.Library.CodeUnits
import Tchuno.Library.Texts

/-!
# Relative references

How a browser resolves a text against the origin of an application whose scheme is http or
https, after the URL standard.  What becomes of a text that names a scheme or a host is left
open.
-/

namespace Tchuno.Library

namespace JsString

/-! ## Reading -/

def isControlOrSpace (unit : UInt16) : Bool :=
  unit ≤ 0x20

def isTabOrLineEnd (unit : UInt16) : Bool :=
  unit = 0x09 || unit = 0x0A || unit = 0x0D

/-- The text that is parsed: without controls and spaces at its ends, and without tabs and
line ends. -/
def readAsUrl (input : JsString) : JsString :=
  ((input.dropWhile isControlOrSpace).rdropWhile isControlOrSpace).filter fun unit =>
    !isTabOrLineEnd unit

def isAsciiLetter (unit : UInt16) : Bool :=
  (0x41 ≤ unit && unit ≤ 0x5A) || (0x61 ≤ unit && unit ≤ 0x7A)

/-- Letters, digits, `+`, `-` and `.` -/
def isSchemeUnit (unit : UInt16) : Bool :=
  isAsciiLetter unit || (0x30 ≤ unit && unit ≤ 0x39) || unit = 0x2B || unit = 0x2D || unit = 0x2E

/-- A letter, then scheme units up to a colon. -/
def namesScheme : JsString → Bool
  | [] => false
  | first :: rest => isAsciiLetter first && (rest.dropWhile isSchemeUnit).head? = some 0x3A

/-- The slash, or the backslash, which these schemes read as one. -/
def isSlash (unit : UInt16) : Bool :=
  unit = 0x2F || unit = 0x5C

/-- Two slashes stand before a host. -/
def namesHost : JsString → Bool
  | first :: second :: _ => isSlash first && isSlash second
  | _ => false

/-! ## The path -/

/-- `?` and `#` -/
def endsPath (unit : UInt16) : Bool :=
  unit = 0x3F || unit = 0x23

def isSingleDot (segment : JsString) : Bool :=
  [ofString ".", ofString "%2e"].contains segment.toLowerCase

def isDoubleDot (segment : JsString) : Bool :=
  [ofString "..", ofString ".%2e", ofString "%2e.", ofString "%2e%2e"].contains
    segment.toLowerCase

/-- Append the segments to a path; dots at the end leave an empty segment. -/
def appendSegments : List JsString → List JsString → List JsString
  | path, [] => path
  | path, [last] =>
      if isDoubleDot last then path.dropLast ++ [[]]
      else if isSingleDot last then path ++ [[]]
      else path ++ [last]
  | path, segment :: next :: rest =>
      if isDoubleDot segment then appendSegments path.dropLast (next :: rest)
      else if isSingleDot segment then appendSegments path (next :: rest)
      else appendSegments (path ++ [segment]) (next :: rest)

def dropSlash : JsString → JsString
  | [] => []
  | first :: rest => if isSlash first then rest else first :: rest

/-- The segments to which a text leads from the origin, whose own path is one empty
segment. -/
def pathSegments (text : JsString) : List JsString :=
  let path := text.takeWhile fun unit => !endsPath unit
  if path = [] then [[]] else appendSegments [] ((dropSlash path).splitOnP isSlash)

/-! ## Percent-encoding -/

def isHighSurrogate (unit : UInt16) : Bool :=
  0xD800 ≤ unit && unit ≤ 0xDBFF

def isLowSurrogate (unit : UInt16) : Bool :=
  0xDC00 ≤ unit && unit ≤ 0xDFFF

/-- The code point of a unit on its own; half of a pair becomes U+FFFD. -/
def codePoint (unit : UInt16) : Nat :=
  if isHighSurrogate unit || isLowSurrogate unit then 0xFFFD else unit.toNat

def codePoints : JsString → List Nat
  | [] => []
  | [unit] => [codePoint unit]
  | unit :: next :: rest =>
      if isHighSurrogate unit && isLowSurrogate next then
        (0x10000 + (unit.toNat - 0xD800) * 0x400 + (next.toNat - 0xDC00)) :: codePoints rest
      else
        codePoint unit :: codePoints (next :: rest)

def utf8Octets (point : Nat) : List Nat :=
  if point < 0x80 then [point]
  else if point < 0x800 then [0xC0 + point / 0x40, 0x80 + point % 0x40]
  else if point < 0x10000 then
    [0xE0 + point / 0x1000, 0x80 + point / 0x40 % 0x40, 0x80 + point % 0x40]
  else
    [0xF0 + point / 0x40000, 0x80 + point / 0x1000 % 0x40, 0x80 + point / 0x40 % 0x40,
      0x80 + point % 0x40]

def hexDigit (digit : Nat) : UInt16 :=
  if digit < 10 then UInt16.ofNat (0x30 + digit) else UInt16.ofNat (0x37 + digit % 16)

def percentOctet (octet : Nat) : JsString :=
  [0x25, hexDigit (octet / 16 % 16), hexDigit (octet % 16)]

/-- The code points of a path which are not written as they are: controls, the space, the
double quote, `#`, `<`, `>`, `?`, `^`, the grave accent, the braces and all beyond `~`. -/
def inPathPercentEncodeSet (point : Nat) : Bool :=
  point ≤ 0x20 || [0x22, 0x23, 0x3C, 0x3E, 0x3F, 0x5E, 0x60, 0x7B, 0x7D].contains point ||
    0x7E < point

def encodeCodePoint (point : Nat) : JsString :=
  if inPathPercentEncodeSet point then (utf8Octets point).flatMap percentOctet
  else [UInt16.ofNat point]

def percentEncode (segment : JsString) : JsString :=
  (codePoints segment).flatMap encodeCodePoint

/-- `url.pathname`; encoding neither makes nor hides a segment of dots. -/
def pathnameOf (segments : List JsString) : JsString :=
  segments.flatMap fun segment => 0x2F :: percentEncode segment

end JsString

open JsString

/-- Where a text leads: whether to the origin itself, and to which path. -/
structure Destination where
  sameOrigin : Bool
  pathname : JsString

/-- `new URL(input, origin)`, or `none` if it fails. -/
def resolveAgainstOrigin (elsewhere : JsString → Option Destination) (input : JsString) :
    Option Destination :=
  let text := readAsUrl input
  if namesScheme text || namesHost text then elsewhere text
  else some ⟨true, pathnameOf (pathSegments text)⟩

namespace JsString

/-! ## Segments -/

theorem appendSegments_ne_nil {path segments : List JsString} (some_segment : segments ≠ []) :
    appendSegments path segments ≠ [] := by
  induction path, segments using appendSegments.induct with
  | case1 path =>
      exact absurd rfl some_segment
  | case2 path last double =>
      rw [appendSegments, if_pos double]
      exact List.append_ne_nil_of_right_ne_nil _ (List.cons_ne_nil _ _)
  | case3 path last double single =>
      rw [appendSegments, if_neg double, if_pos single]
      exact List.append_ne_nil_of_right_ne_nil _ (List.cons_ne_nil _ _)
  | case4 path last double single =>
      rw [appendSegments, if_neg double, if_neg single]
      exact List.append_ne_nil_of_right_ne_nil _ (List.cons_ne_nil _ _)
  | case5 path segment next rest double inductionHypothesis =>
      rw [appendSegments, if_pos double]
      exact inductionHypothesis (List.cons_ne_nil _ _)
  | case6 path segment next rest double single inductionHypothesis =>
      rw [appendSegments, if_neg double, if_pos single]
      exact inductionHypothesis (List.cons_ne_nil _ _)
  | case7 path segment next rest double single inductionHypothesis =>
      rw [appendSegments, if_neg double, if_neg single]
      exact inductionHypothesis (List.cons_ne_nil _ _)

/-- What holds of the empty segment and of all the given ones holds of those that are left. -/
theorem forall_mem_appendSegments {property : JsString → Prop} (empty : property [])
    {path segments : List JsString} (before : ∀ segment ∈ path, property segment)
    (given : ∀ segment ∈ segments, property segment) :
    ∀ segment ∈ appendSegments path segments, property segment := by
  have extended : ∀ {path : List JsString} {last : JsString},
      (∀ segment ∈ path, property segment) → property last →
        ∀ segment ∈ path ++ [last], property segment := by
    intro path last kept holds segment member
    rcases List.mem_append.mp member with old | new
    · exact kept segment old
    · rw [List.mem_singleton.mp new]
      exact holds
  have shortened : ∀ {path : List JsString}, (∀ segment ∈ path, property segment) →
      ∀ segment ∈ path.dropLast, property segment := by
    intro path kept segment member
    exact kept segment (List.mem_of_mem_dropLast member)
  induction path, segments using appendSegments.induct with
  | case1 path =>
      exact before
  | case2 path last double =>
      rw [appendSegments, if_pos double]
      exact extended (shortened before) empty
  | case3 path last double single =>
      rw [appendSegments, if_neg double, if_pos single]
      exact extended before empty
  | case4 path last double single =>
      rw [appendSegments, if_neg double, if_neg single]
      exact extended before (given last List.mem_cons_self)
  | case5 path segment next rest double inductionHypothesis =>
      rw [appendSegments, if_pos double]
      exact inductionHypothesis (shortened before) fun other later =>
        given other (List.mem_cons_of_mem _ later)
  | case6 path segment next rest double single inductionHypothesis =>
      rw [appendSegments, if_neg double, if_pos single]
      exact inductionHypothesis before fun other later =>
        given other (List.mem_cons_of_mem _ later)
  | case7 path segment next rest double single inductionHypothesis =>
      rw [appendSegments, if_neg double, if_neg single]
      exact inductionHypothesis (extended before (given segment List.mem_cons_self))
        fun other later => given other (List.mem_cons_of_mem _ later)

theorem mem_of_mem_dropSlash {text : JsString} {unit : UInt16} (member : unit ∈ dropSlash text) :
    unit ∈ text := by
  unfold dropSlash at member
  cases text with
  | nil =>
      exact member
  | cons first rest =>
      dsimp only at member
      split at member
      · exact List.mem_cons_of_mem _ member
      · exact member

/-- Neither slashes nor the marks that end a path stand in a segment. -/
def IsSegment (segment : JsString) : Prop :=
  ∀ unit ∈ segment, isSlash unit = false ∧ endsPath unit = false

theorem isSegment_of_mem_pathSegments (text : JsString) :
    ∀ segment ∈ pathSegments text, IsSegment segment := by
  have none : IsSegment [] := by
    intro unit member
    cases member
  unfold pathSegments
  dsimp only
  split
  · intro segment member
    rw [List.mem_singleton.mp member]
    exact none
  · apply forall_mem_appendSegments none
    · intro segment member
      cases member
    · intro segment cut unit member
      have ⟨inside, plain⟩ := Ecma.mem_and_not_of_mem_splitOnP cut member
      have kept := List.mem_takeWhile_imp (mem_of_mem_dropSlash inside)
      exact ⟨plain, by simpa using kept⟩

theorem pathSegments_ne_nil (text : JsString) : pathSegments text ≠ [] := by
  unfold pathSegments
  dsimp only
  split
  · exact List.cons_ne_nil _ _
  · exact appendSegments_ne_nil (List.splitOnP_ne_nil _ _)

/-! ## Encoded segments -/

/-- The unit can be seen, and ends no path. -/
def isPlain (unit : UInt16) : Bool :=
  0x21 ≤ unit && unit ≤ 0x7E && !endsPath unit

theorem hexDigit_plain {digit : Nat} (small : digit < 16) :
    isPlain (hexDigit digit) = true ∧ isSlash (hexDigit digit) = false := by
  have digits : ((List.range 16).all fun digit =>
      isPlain (hexDigit digit) && !isSlash (hexDigit digit)) = true := by
    decide
  have found := List.all_eq_true.mp digits digit (List.mem_range.mpr small)
  simpa using found

theorem percentOctet_plain {octet : Nat} {unit : UInt16} (member : unit ∈ percentOctet octet) :
    isPlain unit = true ∧ isSlash unit = false := by
  simp only [percentOctet, List.mem_cons, List.not_mem_nil, or_false] at member
  rcases member with rfl | rfl | rfl
  · decide
  · exact hexDigit_plain (Nat.mod_lt _ (by decide))
  · exact hexDigit_plain (Nat.mod_lt _ (by decide))

theorem percentOctet_of_encoded {point : Nat} (encoded : inPathPercentEncodeSet point = true) :
    0x25 ∈ encodeCodePoint point ∧
      ∀ unit ∈ encodeCodePoint point, isPlain unit = true ∧ isSlash unit = false := by
  have octets : utf8Octets point ≠ [] := by
    unfold utf8Octets
    split_ifs <;> exact List.cons_ne_nil _ _
  rw [encodeCodePoint, if_pos encoded]
  constructor
  · obtain ⟨octet, member⟩ := List.exists_mem_of_ne_nil _ octets
    exact List.mem_flatMap.mpr ⟨octet, member, List.mem_cons_self⟩
  · intro unit member
    obtain ⟨octet, _, inside⟩ := List.mem_flatMap.mp member
    exact percentOctet_plain inside

/-- A code point which is not encoded is one plain unit. -/
theorem plain_of_notEncoded {point : Nat} (literal : inPathPercentEncodeSet point = false) :
    encodeCodePoint point = [UInt16.ofNat point] ∧ isPlain (UInt16.ofNat point) = true := by
  have points : ((List.range 0x7F).all fun point =>
      inPathPercentEncodeSet point || isPlain (UInt16.ofNat point)) = true := by
    decide +kernel
  have small : point < 0x7F := by
    simp only [inPathPercentEncodeSet, Bool.or_eq_false_iff, decide_eq_false_iff_not] at literal
    omega
  have plain := List.all_eq_true.mp points point (List.mem_range.mpr small)
  rw [literal, Bool.false_or] at plain
  exact ⟨by rw [encodeCodePoint, literal]; rfl, plain⟩

theorem percentEncode_plain (segment : JsString) :
    ∀ unit ∈ percentEncode segment, isPlain unit = true := by
  intro unit member
  obtain ⟨point, _, inside⟩ := List.mem_flatMap.mp member
  cases literal : inPathPercentEncodeSet point with
  | true =>
      exact ((percentOctet_of_encoded literal).2 unit inside).1
  | false =>
      have ⟨alone, plain⟩ := plain_of_notEncoded literal
      rw [alone, List.mem_singleton] at inside
      exact inside ▸ plain

/-- The code points of ASCII are units of the text. -/
theorem mem_of_mem_codePoints {text : JsString} {point : Nat}
    (member : point ∈ codePoints text) (ascii : point < 0x80) : UInt16.ofNat point ∈ text := by
  have own : ∀ unit : UInt16, point = codePoint unit → UInt16.ofNat point = unit := by
    intro unit same
    unfold codePoint at same
    split at same
    · omega
    · rw [same, UInt16.ofNat_toNat]
  induction text using codePoints.induct with
  | case1 =>
      cases member
  | case2 unit =>
      rw [codePoints, List.mem_singleton] at member
      rw [own unit member]
      exact List.mem_cons_self
  | case3 unit next rest pair inductionHypothesis =>
      rw [codePoints, if_pos pair] at member
      rcases List.mem_cons.mp member with high | later
      · omega
      · exact List.mem_cons_of_mem _ (List.mem_cons_of_mem _ (inductionHypothesis later))
  | case4 unit next rest pair inductionHypothesis =>
      rw [codePoints, if_neg pair] at member
      rcases List.mem_cons.mp member with same | later
      · rw [own unit same]
        exact List.mem_cons_self
      · exact List.mem_cons_of_mem _ (inductionHypothesis later)

theorem percentEncode_noSlash {segment : JsString} (isSegment : IsSegment segment) :
    ∀ unit ∈ percentEncode segment, isSlash unit = false := by
  intro unit member
  obtain ⟨point, listed, inside⟩ := List.mem_flatMap.mp member
  cases literal : inPathPercentEncodeSet point with
  | true =>
      exact ((percentOctet_of_encoded literal).2 unit inside).2
  | false =>
      have ascii : point < 0x80 := by
        simp only [inPathPercentEncodeSet, Bool.or_eq_false_iff,
          decide_eq_false_iff_not] at literal
        omega
      rw [(plain_of_notEncoded literal).1, List.mem_singleton] at inside
      rw [inside]
      exact (isSegment _ (mem_of_mem_codePoints listed ascii)).1

/-- Where no percent sign appears nothing was encoded. -/
theorem percentEncode_eq_self {segment : JsString} (noPercent : 0x25 ∉ percentEncode segment) :
    percentEncode segment = segment := by
  have own : ∀ unit : UInt16, 0x25 ∉ encodeCodePoint (codePoint unit) →
      encodeCodePoint (codePoint unit) = [unit] := by
    intro unit absent
    cases literal : inPathPercentEncodeSet (codePoint unit) with
    | true =>
        exact absurd (percentOctet_of_encoded literal).1 absent
    | false =>
        rw [(plain_of_notEncoded literal).1]
        unfold codePoint at literal ⊢
        split at literal
        · exact absurd literal (by decide)
        · rename_i single
          rw [if_neg single, UInt16.ofNat_toNat]
  induction segment using codePoints.induct with
  | case1 =>
      rfl
  | case2 unit =>
      rw [percentEncode, codePoints, List.flatMap_singleton] at noPercent ⊢
      exact own unit noPercent
  | case3 unit next rest pair inductionHypothesis =>
      have encoded : inPathPercentEncodeSet
          (0x10000 + (unit.toNat - 0xD800) * 0x400 + (next.toNat - 0xDC00)) = true := by
        simp only [inPathPercentEncodeSet, Bool.or_eq_true, decide_eq_true_eq]
        omega
      rw [percentEncode, codePoints, if_pos pair, List.flatMap_cons] at noPercent
      exact absurd (List.mem_append_left _ (percentOctet_of_encoded encoded).1) noPercent
  | case4 unit next rest pair inductionHypothesis =>
      rw [percentEncode, codePoints, if_neg pair, List.flatMap_cons] at noPercent ⊢
      have first := own unit fun inside => noPercent (List.mem_append_left _ inside)
      have later := inductionHypothesis fun inside => noPercent (List.mem_append_right _ inside)
      rw [percentEncode] at later
      rw [first, later]
      rfl

/-- A segment is written as a plain word only if it is this word. -/
theorem percentEncode_eq_iff {segment word : JsString} (fixed : percentEncode word = word)
    (noPercent : 0x25 ∉ word) : percentEncode segment = word ↔ segment = word := by
  constructor
  · intro same
    have kept : percentEncode segment = segment := percentEncode_eq_self (same ▸ noPercent)
    exact kept.symm.trans same
  · intro same
    rw [same, fixed]

end JsString

end Tchuno.Library
