import Mathlib.Data.List.Basic

/-!
# JSON values

The values of `JSON.parse` and the text of `JSON.stringify` without
indentation.  A number is kept as the literal that `JSON.stringify` prints.
-/

namespace Tchuno.Library

/-- A JSON value; object members keep their insertion order. -/
inductive Json where
  | null
  | bool (value : Bool)
  | number (literal : String)
  | string (value : String)
  | array (items : List Json)
  | object (members : List (String × Json))

namespace Json

/-- `record[name]` on an object; anything else has no members. -/
def member? (value : Json) (name : String) : Option Json :=
  match value with
  | .object members => (members.find? fun entry => entry.1 == name).map Prod.snd
  | _ => none

/-- `value === text`. -/
def isString (value : Json) (text : String) : Bool :=
  match value with
  | .string content => content == text
  | _ => false

/-- One character inside a quoted string. -/
def escapeChar (c : Char) : List Char :=
  match c with
  | '"' => ['\\', '"']
  | '\\' => ['\\', '\\']
  | '\x08' => ['\\', 'b']
  | '\x0c' => ['\\', 'f']
  | '\n' => ['\\', 'n']
  | '\r' => ['\\', 'r']
  | '\t' => ['\\', 't']
  | _ =>
      if c.toNat < 0x20 then
        ['\\', 'u', '0', '0', Nat.digitChar (c.toNat / 16), Nat.digitChar (c.toNat % 16)]
      else
        [c]

/-- A quoted string. -/
def quote (text : String) : String :=
  "\"" ++ String.ofList (text.toList.flatMap escapeChar) ++ "\""

mutual

/-- `JSON.stringify(value)`. -/
def stringify : Json → String
  | .null => "null"
  | .bool true => "true"
  | .bool false => "false"
  | .number literal => literal
  | .string value => quote value
  | .array items => "[" ++ ",".intercalate (stringifyItems items) ++ "]"
  | .object members => "\x7b" ++ ",".intercalate (stringifyMembers members) ++ "\x7d"

/-- The texts of the items of an array. -/
def stringifyItems : List Json → List String
  | [] => []
  | item :: rest => stringify item :: stringifyItems rest

/-- The texts of the members of an object. -/
def stringifyMembers : List (String × Json) → List String
  | [] => []
  | (name, value) :: rest =>
      (quote name ++ ":" ++ stringify value) :: stringifyMembers rest

end

end Json

end Tchuno.Library
