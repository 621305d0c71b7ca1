import Mathlib.Data.List.DropRight

/-!
# Strings as code units

A string of the language is a sequence of 16-bit code units; its length and its slices
count these, and a slice may cut a surrogate pair in two.
-/

namespace Tchuno.Library

abbrev JsString :=
  List UInt16

namespace JsString

/-- The UTF-16 encoding of one character. -/
def ofChar (c : Char) : JsString :=
  if c.toNat < 0x10000 then
    [UInt16.ofNat c.toNat]
  else
    [UInt16.ofNat (0xD800 + (c.toNat - 0x10000) / 0x400),
      UInt16.ofNat (0xDC00 + (c.toNat - 0x10000) % 0x400)]

def ofString (text : String) : JsString :=
  text.toList.flatMap ofChar

/-- WhiteSpace and LineTerminator, none of which needs two code units. -/
def isWhiteSpace (unit : UInt16) : Bool :=
  unit ∈ [0x09, 0x0A, 0x0B, 0x0C, 0x0D, 0x20, 0xA0, 0x1680, 0x2028, 0x2029, 0x202F, 0x205F,
    0x3000, 0xFEFF] || (0x2000 ≤ unit && unit ≤ 0x200A)

/-- `String.prototype.trimEnd` -/
def trimEnd (text : JsString) : JsString :=
  (text.reverse.dropWhile isWhiteSpace).reverse

/-- `String.prototype.trim` -/
def trim (text : JsString) : JsString :=
  trimEnd (text.dropWhile isWhiteSpace)

/-- The lower case of one code unit, exact wherever it is made of ASCII letters. -/
def lowerCaseUnit (unit : UInt16) : JsString :=
  if 0x41 ≤ unit && unit ≤ 0x5A then [unit + 0x20]
  else if unit = 0x0130 then [0x69, 0x0307]
  else if unit = 0x212A then [0x6B]
  else [unit]

/-- `String.prototype.toLowerCase`, for comparison with ASCII words. -/
def toLowerCase (text : JsString) : JsString :=
  text.flatMap lowerCaseUnit

/-- `text.slice(0, count)` -/
def sliceTo (count : Nat) (text : JsString) : JsString :=
  text.take count

/-- A text cut to a number of code units, with a mark when it was longer. -/
def cutTo (text : JsString) (count : Nat) (mark : JsString) : JsString :=
  if count < text.length then text.sliceTo count ++ mark else text

theorem length_cutTo_le (text : JsString) (count : Nat) (mark : JsString) :
    (text.cutTo count mark).length ≤ count + mark.length := by
  unfold cutTo sliceTo
  split
  · rw [List.length_append, List.length_take]
    omega
  · omega

/-- What is left of a text is cut no further. -/
theorem cutTo_cutTo (text : JsString) (count : Nat) (mark : JsString) :
    (text.cutTo count mark).cutTo count mark = text.cutTo count mark := by
  by_cases long : count < text.length
  · have cut : text.cutTo count mark = text.sliceTo count ++ mark := if_pos long
    have head : (text.sliceTo count).length = count := by
      rw [sliceTo, List.length_take]
      omega
    have again : (text.sliceTo count ++ mark).sliceTo count = text.sliceTo count :=
      List.take_left' head
    rw [cut, cutTo, again]
    split <;> rfl
  · have whole : text.cutTo count mark = text := if_neg long
    rw [whole, whole]

/-! ## Trimmed texts -/

theorem trim_shortens {unit : UInt16} {rest : JsString} (solid : isWhiteSpace unit = false) :
    trim (unit :: rest) <+: unit :: rest ∧ trim (unit :: rest) ≠ [] := by
  have whole : (unit :: rest).dropWhile isWhiteSpace = unit :: rest := by
    rw [List.dropWhile_cons, solid]
    rfl
  have cut : trim (unit :: rest) = (unit :: rest).rdropWhile isWhiteSpace := by
    rw [trim, whole]
    rfl
  rw [cut]
  refine ⟨List.rdropWhile_prefix _ _, ?_⟩
  intro empty
  have blank := List.rdropWhile_eq_nil_iff.mp empty unit List.mem_cons_self
  rw [solid] at blank
  cases blank

theorem mem_of_mem_trim {text : JsString} {unit : UInt16} (member : unit ∈ text.trim) :
    unit ∈ text := by
  have inside := (List.rdropWhile_prefix isWhiteSpace (text.dropWhile isWhiteSpace)).mem member
  exact (List.dropWhile_sublist _).mem inside

theorem mem_trim_of_solid {text : JsString} {unit : UInt16} (member : unit ∈ text)
    (solid : isWhiteSpace unit = false) : unit ∈ text.trim := by
  have kept : ∀ {text : JsString}, unit ∈ text → unit ∈ text.dropWhile isWhiteSpace := by
    intro text inside
    have whole : text.takeWhile isWhiteSpace ++ text.dropWhile isWhiteSpace = text :=
      List.takeWhile_append_dropWhile
    rw [← whole] at inside
    rcases List.mem_append.mp inside with blank | later
    · rw [List.mem_takeWhile_imp blank] at solid
      cases solid
    · exact later
  exact List.mem_reverse.mpr (kept (List.mem_reverse.mpr (kept member)))

theorem trim_eq_nil_iff {text : JsString} :
    text.trim = [] ↔ ∀ unit ∈ text, isWhiteSpace unit = true := by
  constructor
  · intro empty unit member
    cases solid : isWhiteSpace unit with
    | true =>
        rfl
    | false =>
        have inside := mem_trim_of_solid member solid
        rw [empty] at inside
        cases inside
  · intro blank
    have dropped : text.dropWhile isWhiteSpace = [] := List.dropWhile_eq_nil_iff.mpr blank
    rw [trim, dropped]
    rfl

end JsString

end Tchuno.Library
