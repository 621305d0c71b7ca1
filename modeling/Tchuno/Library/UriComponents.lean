import Tchuno.Library.Ecma

/-!
# Reading percent-encoded text

`decodeURIComponent`: each `%` begins an octet in hexadecimal, and the octets
from `80` on have to be well-formed UTF-8.
-/

namespace Tchuno.Library.Ecma

/-! ## Octets -/

/-- A character as it stands, or an octet that was escaped. -/
inductive UriUnit where
  | literal (c : Char)
  | octet (byte : Nat)
  deriving DecidableEq, Repr

def hexDigit? (c : Char) : Option Nat :=
  if '0' ≤ c ∧ c ≤ '9' then
    some (c.toNat - '0'.toNat)
  else if 'a' ≤ c ∧ c ≤ 'f' then
    some (c.toNat - 'a'.toNat + 10)
  else if 'A' ≤ c ∧ c ≤ 'F' then
    some (c.toNat - 'A'.toNat + 10)
  else
    none

def hexOctet? (high low : Char) : Option Nat := do
  let upper ← hexDigit? high
  let lower ← hexDigit? low
  return 16 * upper + lower

/-- Every `%` has to be followed by two hexadecimal digits. -/
def uriUnits : List Char → Option (List UriUnit)
  | [] => some []
  | c :: rest =>
      if c = '%' then
        match rest with
        | high :: low :: later => do
            let byte ← hexOctet? high low
            let units ← uriUnits later
            return .octet byte :: units
        | _ => none
      else
        (UriUnit.literal c :: ·) <$> uriUnits rest

/-! ## UTF-8 -/

/-- The code point of some octets, unless another encoding of it is shorter or
it is none of a character. -/
def scalarOf (least value : Nat) : Option Char :=
  if least ≤ value ∧ value.isValidChar then some (Char.ofNat value) else none

/-- The six bits of a continuation octet. -/
def continuation? : UriUnit → Option Nat
  | .literal _ => none
  | .octet byte => if 0x80 ≤ byte ∧ byte < 0xC0 then some (byte - 0x80) else none

def decodeUnits : List UriUnit → Option (List Char)
  | [] => some []
  | .literal c :: rest => (c :: ·) <$> decodeUnits rest
  | .octet byte :: rest =>
      if byte < 0x80 then
        (Char.ofNat byte :: ·) <$> decodeUnits rest
      else if 0xC0 ≤ byte ∧ byte < 0xE0 then
        match rest with
        | second :: later => do
            let low ← continuation? second
            let c ← scalarOf 0x80 ((byte - 0xC0) * 0x40 + low)
            (c :: ·) <$> decodeUnits later
        | _ => none
      else if 0xE0 ≤ byte ∧ byte < 0xF0 then
        match rest with
        | second :: third :: later => do
            let middle ← continuation? second
            let low ← continuation? third
            let c ← scalarOf 0x800 ((byte - 0xE0) * 0x1000 + middle * 0x40 + low)
            (c :: ·) <$> decodeUnits later
        | _ => none
      else if 0xF0 ≤ byte ∧ byte < 0xF8 then
        match rest with
        | second :: third :: fourth :: later => do
            let upper ← continuation? second
            let middle ← continuation? third
            let low ← continuation? fourth
            let c ← scalarOf 0x10000
              ((byte - 0xF0) * 0x40000 + upper * 0x1000 + middle * 0x40 + low)
            (c :: ·) <$> decodeUnits later
        | _ => none
      else
        none

/-- `decodeURIComponent`; `none` is a `URIError`. -/
def decodeURIComponent (text : String) : Option String := do
  let units ← uriUnits text.toList
  let decoded ← decodeUnits units
  return String.ofList decoded

example : decodeURIComponent "a%20b%C3%A9" = some "a bé" := by decide +kernel

example : decodeURIComponent "100%" = none := by decide +kernel

end Tchuno.Library.Ecma
