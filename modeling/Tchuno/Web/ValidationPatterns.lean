import Tchuno.Library.Patterns
import Tchuno.Web.DoubleTranslation

/-!
# The patterns of validation messages

Each translation of a validation message finds the groups of one regular expression.  It
succeeds exactly on the texts which can be divided at the phrases of this expression.
-/

namespace Tchuno.Web

open Tchuno.Library Tchuno.Library.JsString

/-! ## Patterns -/

/-- `/^(.+) phrase$/i` -/
def fieldPattern (phrase : String) : Pattern :=
  .upTo .line (ofString phrase) (.last .nothing)

/-- `/^(.+) phrase ([0-9_]+)$/i` -/
def boundPattern (phrase : String) : Pattern :=
  .upTo .line (ofString phrase) (.last (.run isDigitOrUnderscore))

/-- `/^(.+) phrase ([0-9]+) characters$/i` -/
def lengthPattern (phrase : String) : Pattern :=
  .upTo .line (ofString phrase)
    (.upTo (.run isDigit) (ofString " characters") (.last .nothing))

/-- `/^property (.+) should not exist$/i` -/
def propertyPattern : Pattern :=
  .upTo .nothing (ofString "property ") (fieldPattern " should not exist")

/-- `/^(.+) must be one of the following values: (.+)$/i` -/
def valuesPattern : Pattern :=
  .upTo .line (ofString " must be one of the following values: ") (.last .line)

/-- `/^(.+) must match .+ regular expression$/i` -/
def matchPattern : Pattern :=
  .upTo .line (ofString " must match ") (fieldPattern " regular expression")

/-- `/^Invalid transition from (.+) to (.+)$/i` -/
def transitionPattern : Pattern :=
  .upTo .nothing (ofString "Invalid transition from ")
    (.upTo .line (ofString " to ") (.last .line))

/-- The patterns in the order of `validationTranslations`.  That of `eachValueLength` is missing:
what it reads is read as the length of a field, with the first words in its name. -/
def validationPatterns : List Pattern :=
  [propertyPattern,
    fieldPattern " should not be empty",
    fieldPattern " must be a string",
    fieldPattern " must be an integer number",
    fieldPattern " must be a boolean value",
    boundPattern " must not be less than ",
    boundPattern " must not be greater than ",
    lengthPattern " must be longer than or equal to ",
    lengthPattern " must be shorter than or equal to ",
    valuesPattern,
    fieldPattern " must be a valid ISO 8601 date string",
    fieldPattern " must be a UUID",
    matchPattern,
    transitionPattern]

/-- The text has the form of a validation message. -/
def IsValidation (text : JsString) : Prop :=
  ∃ pattern ∈ validationPatterns, pattern.Reads text

/-- The translation succeeds on what the pattern reads. -/
def Follows (pattern : Pattern) (translation : Translation) : Prop :=
  ∀ message, (translation message).isSome = true ↔ pattern.Reads message

/-! ## Phrases and runs -/

section Phrases

variable {phrase text rest : JsString}

/-- No letter becomes a blank. -/
theorem eq_blank_of_foldCase {unit : UInt16} (blank : foldCase unit = 0x20) : unit = 0x20 := by
  unfold foldCase at blank
  split at blank
  · rename_i letter
    simp only [Bool.and_eq_true, decide_eq_true_eq] at letter
    obtain ⟨low, high⟩ := letter
    have shifted := congrArg UInt16.toNat blank
    rw [UInt16.toNat_add] at shifted
    have lowNat : 0x41 ≤ unit.toNat := UInt16.le_iff_toNat_le.mp low
    have highNat : unit.toNat ≤ 0x5A := UInt16.le_iff_toNat_le.mp high
    have value : (unit.toNat + 0x20) % 2 ^ 16 = 0x20 := shifted
    omega
  · exact blank

/-- No letter is a line terminator. -/
theorem isLineTerminator_foldCase (unit : UInt16) :
    isLineTerminator (foldCase unit) = isLineTerminator unit := by
  unfold foldCase
  split
  · rename_i letter
    simp only [Bool.and_eq_true, decide_eq_true_eq, UInt16.le_iff_toNat_le] at letter
    obtain ⟨low, high⟩ := letter
    have lowNat : 0x41 ≤ unit.toNat := low
    have highNat : unit.toNat ≤ 0x5A := high
    have other : ∀ code : UInt16, code.toNat < 0x41 ∨ 0x7A < code.toNat →
        unit ≠ code ∧ unit + 0x20 ≠ code := by
      intro code outside
      refine ⟨?_, ?_⟩
      · rintro rfl
        omega
      · rintro rfl
        rw [UInt16.toNat_add] at outside
        have value : (unit.toNat + 0x20) % 2 ^ 16 < 0x41 ∨
            0x7A < (unit.toNat + 0x20) % 2 ^ 16 := outside
        omega
    have feed := other 0x0A (by decide)
    have carriage := other 0x0D (by decide)
    have line := other 0x2028 (by decide)
    have paragraph := other 0x2029 (by decide)
    simp [isLineTerminator, feed, carriage, line, paragraph]
  · rfl

/-- A text which differs from a phrase in case only has no line terminator either. -/
theorem plain_of_same {other : JsString} (same : sameIgnoringCase other phrase = true)
    (plain : phrase.all (fun unit => !isLineTerminator unit) = true) :
    ∀ unit ∈ other, isLineTerminator unit = false := by
  intro unit member
  have folded : foldCase unit ∈ phrase.map foldCase := by
    rw [← of_decide_eq_true same]
    exact List.mem_map_of_mem member
  obtain ⟨letter, listed, shape⟩ := List.mem_map.mp folded
  rw [← isLineTerminator_foldCase, ← shape, isLineTerminator_foldCase]
  simpa using List.all_eq_true.mp plain letter listed

theorem isLine_append {left right : JsString}
    (plain : ∀ unit ∈ left, isLineTerminator unit = false) (line : isLine right = true) :
    isLine (left ++ right) = true := by
  rw [isLine, Bool.and_eq_true, decide_eq_true_eq, List.all_eq_true] at line ⊢
  refine ⟨fun empty => line.1 (List.append_eq_nil_iff.mp empty).2, fun unit member => ?_⟩
  rcases List.mem_append.mp member with first | second
  · rw [plain unit first]
    rfl
  · exact line.2 unit second

/-- A run is found behind a phrase with a blank at its end. -/
theorem splitRun_phrase {kind : UInt16 → Bool} (front : JsString) {middle run : JsString}
    (same : sameIgnoringCase middle phrase = true) (blank : phrase.getLast? = some 0x20)
    (other : kind 0x20 = false) (all : ∀ unit ∈ run, kind unit = true) :
    splitRun kind (front ++ (middle ++ run)) = (front ++ middle, run) := by
  have filled : middle ≠ [] := by
    rintro rfl
    have size := length_of_same same
    rw [List.length_eq_zero_iff.mp size.symm] at blank
    cases blank
  have last : (front ++ middle).getLast? = some 0x20 := by
    have folded := getLast?_of_sameIgnoringCase same
    rw [blank] at folded
    obtain ⟨unit, isLast, folds⟩ := Option.map_eq_some_iff.mp folded
    rw [List.getLast?_append_of_ne_nil _ filled, isLast, eq_blank_of_foldCase folds]
  obtain ⟨before, shape⟩ := List.getLast?_eq_some_iff.mp last
  have stops : (front ++ middle).reverse = 0x20 :: before.reverse := by
    rw [shape, List.reverse_append]
    rfl
  have backwards : ∀ unit ∈ run.reverse, kind unit = true := fun unit member =>
    all unit (List.mem_reverse.mp member)
  rw [splitRun, List.rdropWhile, List.rtakeWhile, ← List.append_assoc, List.reverse_append,
    List.dropWhile_append_of_pos backwards, List.takeWhile_append_of_pos backwards, stops,
    List.dropWhile_cons_of_neg (by simp [other]), List.takeWhile_cons_of_neg (by simp [other]),
    ← stops, List.reverse_reverse, List.append_nil, List.reverse_reverse]

end Phrases

/-! ## Translations follow their patterns -/

theorem follows_fieldPhrase (phrase text : String) :
    Follows (fieldPattern phrase) (fieldPhrase phrase text) := by
  intro message
  constructor
  · intro found
    obtain ⟨result, translated⟩ := Option.isSome_iff_exists.mp found
    obtain ⟨field, matched, accepted⟩ := Option.bind_eq_some_iff.mp translated
    obtain ⟨back, shape, same⟩ := eq_of_beforePhrase? matched
    split at accepted
    · rename_i line
      exact ⟨field, back, [], by rw [shape, List.append_nil], line, same, rfl⟩
    · cases accepted
  · rintro ⟨field, back, _, rfl, line, same, rfl⟩
    rw [List.append_nil, fieldPhrase, beforePhrase?_append field same]
    change (if isLine field = true then _ else none).isSome = true
    rw [if_pos (show isLine field = true from line)]
    rfl

theorem follows_boundPhrase {phrase : String} (text : String)
    (blank : (ofString phrase).getLast? = some 0x20) :
    Follows (boundPattern phrase) (boundPhrase phrase text) := by
  intro message
  constructor
  · intro found
    obtain ⟨result, translated⟩ := Option.isSome_iff_exists.mp found
    obtain ⟨field, matched, accepted⟩ := Option.bind_eq_some_iff.mp translated
    obtain ⟨middle, shape, same⟩ := eq_of_beforePhrase? matched
    split at accepted
    · rename_i lines
      rw [Bool.and_eq_true, decide_eq_true_eq] at lines
      refine ⟨field, middle, (splitRun isDigitOrUnderscore message).2, ?_, lines.1, same, lines.2,
        fun unit member => List.mem_rtakeWhile_imp member⟩
      rw [← List.append_assoc, ← shape, splitRun_append]
    · cases accepted
  · rintro ⟨field, middle, digits, rfl, line, same, filled, all⟩
    have divided := splitRun_phrase field same blank (by decide) all
    rw [boundPhrase, divided]
    change (Option.bind (beforePhrase? (ofString phrase) (field ++ middle)) _).isSome = true
    rw [beforePhrase?_append field same, Option.bind_some, line, Bool.true_and,
      if_pos (decide_eq_true filled)]
    rfl

theorem countedCharacters?_isSome_iff {phrase : String} (message : JsString)
    (blank : (ofString phrase).getLast? = some 0x20) :
    (countedCharacters? phrase message).isSome = true ↔ (lengthPattern phrase).Reads message := by
  constructor
  · intro found
    obtain ⟨groups, counted⟩ := Option.isSome_iff_exists.mp found
    obtain ⟨front, characters, inner⟩ := Option.bind_eq_some_iff.mp counted
    obtain ⟨field, matched, accepted⟩ := Option.bind_eq_some_iff.mp inner
    obtain ⟨back, rfl, backSame⟩ := eq_of_beforePhrase? characters
    obtain ⟨middle, shape, same⟩ := eq_of_beforePhrase? matched
    split at accepted
    · rename_i lines
      rw [Bool.and_eq_true, decide_eq_true_eq] at lines
      refine ⟨field, middle, (splitRun isDigit front).2 ++ back, ?_, lines.1, same,
        (splitRun isDigit front).2, back, [], by rw [List.append_nil],
        ⟨lines.2, fun unit member => List.mem_rtakeWhile_imp member⟩, backSame, rfl⟩
      rw [← List.append_assoc middle, ← List.append_assoc field, ← List.append_assoc field,
        ← shape, splitRun_append]
    · cases accepted
  · rintro ⟨field, middle, _, rfl, line, same, digits, back, _, rfl, ⟨filled, all⟩, backSame, rfl⟩
    have divided := splitRun_phrase field same blank (by decide) all
    have shape : field ++ (middle ++ (digits ++ (back ++ []))) =
        (field ++ (middle ++ digits)) ++ back := by
      simp
    rw [shape, countedCharacters?, beforePhrase?_append _ backSame]
    change (Option.bind (beforePhrase? (ofString phrase)
      (splitRun isDigit (field ++ (middle ++ digits))).1) _).isSome = true
    rw [divided, beforePhrase?_append field same, Option.bind_some, line, Bool.true_and,
      if_pos (decide_eq_true filled)]
    rfl

theorem follows_lengthPhrase {phrase : String} (text : String)
    (blank : (ofString phrase).getLast? = some 0x20) :
    Follows (lengthPattern phrase) (lengthPhrase phrase text) := by
  intro message
  rw [← countedCharacters?_isSome_iff message blank, lengthPhrase]
  cases countedCharacters? phrase message <;> rfl

theorem follows_unexpectedProperty : Follows propertyPattern unexpectedProperty := by
  intro message
  have inner := follows_fieldPhrase " should not exist" ""
  constructor
  · intro found
    obtain ⟨result, translated⟩ := Option.isSome_iff_exists.mp found
    obtain ⟨rest, after, reading⟩ := Option.bind_eq_some_iff.mp translated
    obtain ⟨front, shape, same⟩ := eq_of_afterPhrase? after
    refine ⟨[], front, rest, shape, rfl, same, (inner rest).mp ?_⟩
    obtain ⟨field, matched, accepted⟩ := Option.bind_eq_some_iff.mp reading
    split at accepted
    · rename_i line
      rw [fieldPhrase, matched]
      change (if isLine field = true then _ else none).isSome = true
      rw [if_pos line]
      rfl
    · cases accepted
  · rintro ⟨_, front, rest, rfl, rfl, same, reads⟩
    obtain ⟨result, translated⟩ := Option.isSome_iff_exists.mp ((inner rest).mpr reads)
    obtain ⟨field, matched, accepted⟩ := Option.bind_eq_some_iff.mp translated
    split at accepted
    · rename_i line
      rw [List.nil_append, unexpectedProperty, afterPhrase?_append rest same]
      change (Option.bind (beforePhrase? (ofString " should not exist") rest) _).isSome = true
      rw [matched, Option.bind_some, if_pos line]
      rfl
    · cases accepted

/-- The length of each value is the length of a field. -/
theorem reads_of_eachValueLength {message : JsString}
    (found : (eachValueLength message).isSome = true) :
    (lengthPattern " must be longer than or equal to ").Reads message := by
  obtain ⟨result, translated⟩ := Option.isSome_iff_exists.mp found
  obtain ⟨rest, after, reading⟩ := Option.bind_eq_some_iff.mp translated
  obtain ⟨front, rfl, same⟩ := eq_of_afterPhrase? after
  obtain ⟨groups, counted, _⟩ := Option.bind_eq_some_iff.mp reading
  have counts : (countedCharacters? " must be longer than or equal to " rest).isSome = true := by
    rw [counted]
    rfl
  obtain ⟨field, middle, later, rfl, line, reads⟩ :=
    (countedCharacters?_isSome_iff rest (by decide)).mp counts
  exact ⟨front ++ field, middle, later, by rw [List.append_assoc],
    isLine_append (plain_of_same same (by decide)) line, reads⟩

theorem follows_allowedValues : Follows valuesPattern allowedValues := by
  intro message
  refine Iff.trans ?_ isSome_splitAtPhrase?_iff
  rw [allowedValues]
  cases splitAtPhrase? (ofString " must be one of the following values: ") message <;> rfl

theorem follows_expectedPattern : Follows matchPattern expectedPattern := by
  intro message
  constructor
  · intro found
    obtain ⟨result, translated⟩ := Option.isSome_iff_exists.mp found
    obtain ⟨rest, before, inner⟩ := Option.bind_eq_some_iff.mp translated
    obtain ⟨⟨field, expression⟩, split_at, _⟩ := Option.bind_eq_some_iff.mp inner
    obtain ⟨back, rfl, backSame⟩ := eq_of_beforePhrase? before
    obtain ⟨middle, rfl, same, line, expressionLine⟩ := eq_of_splitAtPhrase? split_at
    exact ⟨field, middle, expression ++ back, by simp, line, same, expression, back, [],
      by rw [List.append_nil], expressionLine, backSame, rfl⟩
  · rintro ⟨field, middle, _, rfl, line, same, expression, back, _, rfl, expressionLine, backSame,
      rfl⟩
    have shape : field ++ (middle ++ (expression ++ (back ++ []))) =
        (field ++ (middle ++ expression)) ++ back := by
      simp
    obtain ⟨groups, found⟩ := Option.isSome_iff_exists.mp (isSome_splitAtPhrase?_iff.mpr
      ⟨field, middle, expression, rfl, line, same, expressionLine⟩)
    rw [shape, expectedPattern, beforePhrase?_append _ backSame]
    change (Option.bind (splitAtPhrase? (ofString " must match ") _) _).isSome = true
    rw [found]
    rfl

theorem follows_invalidTransition : Follows transitionPattern invalidTransition := by
  intro message
  constructor
  · intro found
    obtain ⟨result, translated⟩ := Option.isSome_iff_exists.mp found
    obtain ⟨rest, after, inner⟩ := Option.bind_eq_some_iff.mp translated
    obtain ⟨groups, divided, _⟩ := Option.bind_eq_some_iff.mp inner
    obtain ⟨front, shape, same⟩ := eq_of_afterPhrase? after
    exact ⟨[], front, rest, shape, rfl, same,
      isSome_splitAtPhrase?_iff.mp (by rw [divided]; rfl)⟩
  · rintro ⟨_, front, rest, rfl, rfl, same, reads⟩
    obtain ⟨groups, found⟩ := Option.isSome_iff_exists.mp (isSome_splitAtPhrase?_iff.mpr reads)
    rw [List.nil_append, invalidTransition, afterPhrase?_append rest same]
    change (Option.bind (splitAtPhrase? (ofString " to ") rest) _).isSome = true
    rw [found]
    rfl

/-- All translations but `eachValueLength` follow the patterns. -/
theorem follows_validation : List.Forall₂ Follows validationPatterns
    (validationTranslations.take 9 ++ validationTranslations.drop 10) := by
  refine .cons follows_unexpectedProperty <| .cons (follows_fieldPhrase _ _) <|
    .cons (follows_fieldPhrase _ _) <| .cons (follows_fieldPhrase _ _) <|
    .cons (follows_fieldPhrase _ _) <| .cons (follows_boundPhrase _ (by decide)) <|
    .cons (follows_boundPhrase _ (by decide)) <| .cons (follows_lengthPhrase _ (by decide)) <|
    .cons (follows_lengthPhrase _ (by decide)) <| .cons follows_allowedValues <|
    .cons (follows_fieldPhrase _ _) <| .cons (follows_fieldPhrase _ _) <|
    .cons follows_expectedPattern <| .cons follows_invalidTransition .nil

theorem exists_translation_iff {patterns : List Pattern} {translations : List Translation}
    (follow : List.Forall₂ Follows patterns translations) (message : JsString) :
    (∃ translation ∈ translations, (translation message).isSome = true) ↔
      ∃ pattern ∈ patterns, pattern.Reads message := by
  induction follow with
  | nil =>
      simp
  | cons first rest inductionHypothesis =>
      simp only [List.exists_mem_cons_iff, first message, inductionHypothesis]

/-- A text without white space around it is translated exactly if a pattern reads it. -/
theorem humanizeValidationMessage_isSome_iff {text : JsString} (trimmed : text.trim = text)
    (filled : text.length ≠ 0) :
    (humanizeValidationMessage text).isSome = true ↔ IsValidation text := by
  rw [humanizeValidationMessage, trimmed, if_neg filled, List.findSome?_isSome_iff]
  have others := exists_translation_iff follows_validation text
  have divided : validationTranslations =
      validationTranslations.take 9 ++ eachValueLength :: validationTranslations.drop 10 :=
    rfl
  constructor
  · rintro ⟨translation, listed, found⟩
    rw [divided] at listed
    rcases List.mem_append.mp listed with first | later
    · exact others.mp ⟨translation, List.mem_append_left _ first, found⟩
    · rcases List.mem_cons.mp later with rfl | last
      · exact ⟨lengthPattern " must be longer than or equal to ", by simp [validationPatterns],
          reads_of_eachValueLength found⟩
      · exact others.mp ⟨translation, List.mem_append_right _ last, found⟩
  · intro validation
    obtain ⟨translation, listed, found⟩ := others.mpr validation
    refine ⟨translation, ?_, found⟩
    rcases List.mem_append.mp listed with first | last
    · exact List.mem_of_mem_take first
    · exact List.mem_of_mem_drop last

/-- A pattern with a phrase does not read the empty text. -/
theorem not_isValidation_nil : ¬ IsValidation [] := by
  rintro ⟨pattern, listed, reads⟩
  have phrased : (validationPatterns.all fun pattern =>
      (pattern.phrases.head?.any fun phrase => 0 < phrase.length)) = true := by
    decide
  have first := List.all_eq_true.mp phrased pattern listed
  cases pattern with
  | last gap =>
      cases first
  | upTo gap phrase rest =>
      obtain ⟨front, middle, back, shape, _, same, _⟩ := reads
      obtain ⟨_, inner⟩ := List.append_eq_nil_iff.mp shape.symm
      have size := length_of_same same
      rw [(List.append_eq_nil_iff.mp inner).1] at size
      have long : 0 < phrase.length := of_decide_eq_true first
      exact absurd size.symm (Nat.pos_iff_ne_zero.mp long)

end Tchuno.Web
