import Mathlib.Algebra.Order.Floor.Ring
import Mathlib.Data.Rat.Floor

/-!
# The ECMAScript built-ins the services use

Numbers are exact rationals; `Number(text)` is `none` when the result is not
finite.  Strings are sequences of Unicode scalar values.
-/

namespace Tchuno.Library.Ecma

/-! ## Numbers -/

/-- `Math.trunc`: drop the fractional part. -/
def mathTrunc (x : ℚ) : ℤ :=
  if 0 ≤ x then ⌊x⌋ else ⌈x⌉

/-- `Math.round`: to the nearest integer, halves upwards. -/
def mathRound (x : ℚ) : ℤ :=
  ⌊x + 1 / 2⌋

theorem mathTrunc_intCast (value : ℤ) : mathTrunc (value : ℚ) = value := by
  unfold mathTrunc
  split
  · exact Int.floor_intCast value
  · exact Int.ceil_intCast value

theorem mathRound_nonneg {x : ℚ} (nonneg : 0 ≤ x) : 0 ≤ mathRound x := by
  apply Int.floor_nonneg.mpr
  linarith

theorem mathRound_le {x : ℚ} {bound : ℤ} (le : x ≤ bound) :
    mathRound x ≤ bound := by
  rw [mathRound, ← Int.lt_add_one_iff, Int.floor_lt]
  push_cast
  linarith

/-! ## Strings -/

/-- WhiteSpace and LineTerminator of the language. -/
def isWhiteSpace (c : Char) : Bool :=
  c.toNat ∈ [0x09, 0x0A, 0x0B, 0x0C, 0x0D, 0x20, 0xA0, 0x1680, 0x2028, 0x2029,
    0x202F, 0x205F, 0x3000, 0xFEFF] || (0x2000 ≤ c.toNat && c.toNat ≤ 0x200A)

/-- `String.prototype.trim`. -/
def trim (text : String) : String :=
  String.ofList
    ((text.toList.dropWhile isWhiteSpace).reverse.dropWhile isWhiteSpace).reverse

/-- The upper case of one character, exact wherever it is made of ASCII letters;
the characters left alone never upper-case into ASCII. -/
def upperCaseChar (c : Char) : List Char :=
  match c.toNat with
  | 0x00DF => ['S', 'S']
  | 0x0131 => ['I']
  | 0x017F => ['S']
  | 0xFB00 => ['F', 'F']
  | 0xFB01 => ['F', 'I']
  | 0xFB02 => ['F', 'L']
  | 0xFB03 => ['F', 'F', 'I']
  | 0xFB04 => ['F', 'F', 'L']
  | 0xFB05 => ['S', 'T']
  | 0xFB06 => ['S', 'T']
  | _ => [c.toUpper]

/-- `String.prototype.toUpperCase`, for comparison with ASCII words. -/
def toUpperCase (text : String) : String :=
  String.ofList (text.toList.flatMap upperCaseChar)

/-- The lower case of one character, exact wherever it is made of ASCII letters. -/
def lowerCaseChar (c : Char) : List Char :=
  match c.toNat with
  | 0x0130 => ['i', Char.ofNat 0x0307]
  | 0x212A => ['k']
  | _ => [c.toLower]

/-- `String.prototype.toLowerCase`, for comparison with ASCII words. -/
def toLowerCase (text : String) : String :=
  String.ofList (text.toList.flatMap lowerCaseChar)

/-- What comes before and after the last occurrence of a character. -/
def splitAtLast? (separator : Char) (text : String) : Option (String × String) :=
  let reversed := text.toList.reverse
  if separator ∈ reversed then
    some (String.ofList (reversed.drop (reversed.idxOf separator + 1)).reverse,
      String.ofList (reversed.take (reversed.idxOf separator)).reverse)
  else
    none

/-- An absent or empty string is falsy; any other is kept. -/
def truthy (text : Option String) : Option String :=
  text.filter fun present => present ≠ ""

/-- `array.filter((item, index, array) => item.length > 0 &&
array.indexOf(item) === index)`. -/
def distinctNonEmpty (items : List String) : List String :=
  (items.zipIdx.filter fun (item, index) =>
    item ≠ "" && items.idxOf item == index).map Prod.fst

end Tchuno.Library.Ecma
