import Tchuno.Library.Ecma

/-!
# Detection of contact sharing

`detectContactSharing` with its regular expressions.  All of them repeat single
characters, so a pattern is a list of runs, each matched as long as possible first.
-/

namespace Tchuno.TrustSafety

open Tchuno.Library.Ecma

/-! ## Patterns -/

/-- A character of a class, repeated, or `\b`. -/
inductive Atom where
  | run (accept : Char → Bool) (least : Nat) (most : Option Nat)
  | boundary

/-- `\w` -/
def isWordCharacter (c : Char) : Bool :=
  c.isAlphanum || c = '_'

def atBoundary (before : Option Char) (input : List Char) : Bool :=
  before.any isWordCharacter != input.head?.any isWordCharacter

/-- The length of the match at the beginning of the input. -/
def matchLength : List Atom → Option Char → List Char → Option Nat
  | [], _, _ => some 0
  | .boundary :: rest, before, input =>
      if atBoundary before input then matchLength rest before input else none
  | .run accept least most :: rest, before, input =>
      let available := (input.takeWhile accept).length
      let longest := (most.map (min available)).getD available
      (List.range' least (longest + 1 - least)).reverse.findSome? fun count =>
        (matchLength rest ((input.take count).getLast?.or before) (input.drop count)).map
          (count + ·)

/-- Some alternative matches somewhere in the input. -/
def occurs (alternatives : List (List Atom)) : Option Char → List Char → Bool
  | before, [] => alternatives.any fun atoms => (matchLength atoms before []).isSome
  | before, c :: rest =>
      (alternatives.any fun atoms => (matchLength atoms before (c :: rest)).isSome) ||
        occurs alternatives (some c) rest

/-- The matches of a pattern which is not empty, from left to right; `skip` characters
belong to the last one. -/
def allMatches (atoms : List Atom) : Option Char → Nat → List Char → List (List Char)
  | _, _, [] => []
  | _, skip + 1, c :: rest => allMatches atoms (some c) skip rest
  | before, 0, c :: rest =>
      match matchLength atoms before (c :: rest) with
      | some (length + 1) =>
          (c :: rest).take (length + 1) :: allMatches atoms (some c) length rest
      | _ => allMatches atoms (some c) 0 rest

/-- One character of a class. -/
def one (accept : Char → Bool) : Atom :=
  .run accept 1 (some 1)

/-- The letters of a word, in either case. -/
def word (text : String) : List Atom :=
  text.toList.map fun letter => one fun c => c.toLower = letter

def isDigit (c : Char) : Bool :=
  c.isDigit

/-! ## The expressions -/

/-- `/[a-z0-9._%+-]+@[a-z0-9.-]+\.[a-z]{2,}/i` -/
def emailRegex : List (List Atom) :=
  [[.run (fun c => c.isAlphanum || c ∈ ['.', '_', '%', '+', '-']) 1 none, one (· = '@'),
    .run (fun c => c.isAlphanum || c ∈ ['.', '-']) 1 none, one (· = '.'),
    .run Char.isAlpha 2 none]]

/-- `/(https?:\/\/|www\.|wa\.me\/|t\.me\/|bit\.ly\/)/i` -/
def urlRegex : List (List Atom) :=
  [word "http" ++ [.run (fun c => c.toLower = 's') 0 (some 1)] ++ word "://", word "www.",
    word "wa.me/", word "t.me/", word "bit.ly/"]

/-- `/(?:\+?\d[\d\s().-]{6,}\d)/g` -/
def phoneRegex : List Atom :=
  [.run (· = '+') 0 (some 1), one isDigit,
    .run (fun c => isDigit c || isWhiteSpace c || c ∈ ['(', ')', '.', '-']) 6 none,
    one isDigit]

/-- `/\b(whatsapp|whats|…|inbox)\b/i` -/
def keywordRegex : List (List Atom) :=
  (["whatsapp", "whats", "telegram", "telemovel", "telefone", "numero"].map word ++
    [word "n" ++ [one fun c => c.toLower = 'u' || c = 'ú' || c = 'Ú'] ++ word "mero"] ++
    ["email", "gmail", "hotmail", "liga", "liga-me", "contacta", "contacto", "call", "dm",
      "instagram", "facebook", "inbox"].map word).map
    fun keyword => [.boundary] ++ keyword ++ [.boundary]

/-! ## The detection -/

inductive TrustSafetyRiskLevel where
  | low | medium | high
  deriving DecidableEq, Repr

inductive ContactSignal where
  | email | externalLink | phone | externalContactKeyword
  deriving DecidableEq, Repr

structure ContactDetection where
  riskLevel : TrustSafetyRiskLevel
  signals : List ContactSignal
  reasonSummary : String
  messagePreview : String
  deriving DecidableEq

def hasPhoneLike (text : String) : Bool :=
  (allMatches phoneRegex none 0 text.toList).any fun found =>
    decide (8 ≤ (found.filter isDigit).length)

def contactSignals (content : String) : List ContactSignal :=
  let trimmed := trim content
  let normalized := toLowerCase trimmed
  (if occurs emailRegex none trimmed.toList then [.email] else []) ++
    (if occurs urlRegex none trimmed.toList then [.externalLink] else []) ++
    (if hasPhoneLike trimmed then [.phone] else []) ++
    (if occurs keywordRegex none normalized.toList then [.externalContactKeyword] else [])

/-- Strings are counted and cut in UTF-16 code units. -/
def codeUnits (c : Char) : Nat :=
  if c.toNat < 0x10000 then 1 else 2

/-- Half of a surrogate pair is stored as a replacement character. -/
def sliceUnits (count : Nat) : List Char → List Char
  | [] => []
  | c :: rest =>
      if count = 0 then []
      else if count < codeUnits c then [Char.ofNat 0xFFFD]
      else c :: sliceUnits (count - codeUnits c) rest

def trimEnd (text : List Char) : List Char :=
  (text.reverse.dropWhile isWhiteSpace).reverse

def messagePreview (trimmed : String) : String :=
  if 180 < (trimmed.toList.map codeUnits).sum then
    String.ofList (trimEnd (sliceUnits 177 trimmed.toList)) ++ "..."
  else
    trimmed

def detectContactSharing (content : String) : Option ContactDetection :=
  let signals := contactSignals content
  if signals = [] then
    none
  else
    let direct := signals.contains .phone || signals.contains .email ||
      signals.contains .externalLink
    some
      { riskLevel := if direct then .high else .low
        signals := signals
        reasonSummary :=
          if direct then "Tentativa de partilha direta de contacto antes do pagamento."
          else "Mensagem sugere desvio para contacto externo antes do pagamento."
        messagePreview := messagePreview (trim content) }

theorem detectContactSharing_eq_none {content : String} :
    detectContactSharing content = none ↔ contactSignals content = [] := by
  unfold detectContactSharing
  by_cases silent : contactSignals content = []
  · simp [silent]
  · simp [silent]

example : contactSignals "liga-me: +258 84 123 4567" = [.phone, .externalContactKeyword] := by
  decide +kernel

example : contactSignals "Chego no dia 12, entre as 10 e as 11." = [] := by
  decide +kernel

end Tchuno.TrustSafety
