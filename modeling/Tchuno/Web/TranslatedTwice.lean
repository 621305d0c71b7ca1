import Tchuno.Web.ValidationPatterns

/-!
# The own words of a message

What the second pass of `humanizeMessage` finds is made of the own words of the message: the
Portuguese words of the first pass overlap with no phrase that a pattern looks for.
-/

namespace Tchuno.Web

open Tchuno.Library Tchuno.Library.JsString

/-! ## Own words -/

/-- The own words of `unexpectedProperty`: a full stop stands for the Portuguese ones. -/
def propertyWords : Translation := fun message => do
  let rest ← afterPhrase? (ofString "property ") message
  let field ← beforePhrase? (ofString " should not exist") rest
  if isLine field then some (ofString "." ++ humanizeField field ++ ofString ".") else none

def lengthWords (phrase : String) : Translation := fun message => do
  let groups ← countedCharacters? phrase message
  some (humanizeField groups.1 ++ ofString " . " ++ groups.2 ++ ofString " .")

def eachValueWords : Translation := fun message => do
  let rest ← afterPhrase? (ofString "each value in ") message
  let groups ← countedCharacters? " must be longer than or equal to " rest
  some (ofString ". " ++ humanizeField groups.1 ++ ofString " . " ++ groups.2 ++ ofString " .")

def allowedWords : Translation := fun message => do
  let groups ← splitAtPhrase? (ofString " must be one of the following values: ") message
  some (humanizeField groups.1 ++ ofString " . " ++ groups.2 ++ ofString ".")

def patternWords : Translation := fun message => do
  let rest ← beforePhrase? (ofString " regular expression") message
  let groups ← splitAtPhrase? (ofString " must match ") rest
  some (humanizeField groups.1 ++ ofString " .")

def transitionWords : Translation := fun message => do
  let rest ← afterPhrase? (ofString "Invalid transition from ") message
  let groups ← splitAtPhrase? (ofString " to ") rest
  some (ofString ". " ++ groups.1 ++ ofString " . " ++ groups.2 ++ ofString ".")

/-- The own words of the messages which `validationTranslations` translates. -/
def validationWords : List Translation :=
  [propertyWords,
    fieldPhrase " should not be empty" " .",
    fieldPhrase " must be a string" " .",
    fieldPhrase " must be an integer number" " .",
    fieldPhrase " must be a boolean value" " .",
    boundPhrase " must not be less than " " . ",
    boundPhrase " must not be greater than " " . ",
    lengthWords " must be longer than or equal to ",
    lengthWords " must be shorter than or equal to ",
    eachValueWords,
    allowedWords,
    fieldPhrase " must be a valid ISO 8601 date string" " .",
    fieldPhrase " must be a UUID" " .",
    patternWords,
    transitionWords]

/-- A part is a message of the tables. -/
def isListed (part : JsString) : Bool :=
  (textOf? humanMessages part).isSome || (textOf? inheritedProperties part).isSome

/-- The own words of a part: none of a listed message, the names of fields and the other groups
of a validation message, and all words of other parts. -/
def ownWordsOf (part : JsString) : JsString :=
  if isListed part then ofString "."
  else (validationWords.findSome? fun words => words part).getD part

/-- The parts, each time the first of those which are said in the same way. -/
def distinctParts (input : JsString) : List JsString :=
  (splitMessageParts input).eraseDupsBy fun part other =>
    humanizeSingleMessage part == humanizeSingleMessage other

/-- The own words of all parts. -/
def ownWords (input : JsString) : JsString :=
  [0x20].intercalate ((distinctParts input).map ownWordsOf)

/-! ## Portuguese words -/

def validationPhrases : List JsString :=
  validationPatterns.flatMap Pattern.phrases

/-- The two texts share the words around foreign ones. -/
abbrev SameWords : JsString → JsString → Prop :=
  Alike validationPhrases isDigitOrUnderscore

/-- The words overlap with no phrase of a pattern, at least where they follow a blank. -/
def isPortuguese (anywhere : Bool) (words : JsString) : Bool :=
  isForeign validationPhrases isDigitOrUnderscore anywhere words

/-- A full stop or a closing bracket, which no message of the tables has. -/
def hasStop (text : JsString) : Bool :=
  text.any fun unit => [0x2E, 0x5D, 0x7D].contains unit

/-- A translation and the own words in it. -/
structure Says (text words : JsString) : Prop where
  same : SameWords text words
  textStops : hasStop text = true
  wordsStop : hasStop words = true

/-- The phrases of `validationPatterns`. -/
def phraseTexts : List String :=
  ["property ", " should not exist", " should not be empty", " must be a string",
    " must be an integer number", " must be a boolean value", " must not be less than ",
    " must not be greater than ", " must be longer than or equal to ", " characters",
    " must be shorter than or equal to ", " characters", " must be one of the following values: ",
    " must be a valid ISO 8601 date string", " must be a UUID", " must match ",
    " regular expression", "Invalid transition from ", " to "]

theorem validationPhrases_eq : validationPhrases = phraseTexts.map ofString :=
  rfl

/-- The phrases by their characters. -/
def phraseSpelling : { spelling : List (List Char) // Spelled phraseTexts spelling } := by
  constructor
  rw [phraseTexts]
  repeat' apply Spelled.cons
  exact .nil

theorem portuguese_of_spelled {anywhere : Bool} {texts : List String}
    {spelling : List (List Char)} (spelled : Spelled texts spelling)
    (checked : (spelling.all fun chars =>
      isForeign (phraseSpelling.1.map fun phrase => phrase.flatMap ofChar) isDigitOrUnderscore
        anywhere (chars.flatMap ofChar)) = true) :
    ∀ text ∈ texts, isPortuguese anywhere (ofString text) = true := by
  rw [← ofString_of_spelled phraseSpelling.2, ← validationPhrases_eq] at checked
  exact forall_of_spelled spelled checked

/-- The translations in the tables. -/
def tableTexts : List String :=
  humanMessages.map Prod.snd ++ inheritedProperties.map Prod.snd

/-- The Portuguese words of `validationTranslations` which stand behind a blank or at the
beginning. -/
def validationTexts : List String :=
  ["Campo \"", "é obrigatório.", "deve ser texto.", "deve ser um número inteiro.",
    "deve ser verdadeiro ou falso.", "deve ser no mínimo", "deve ser no máximo",
    "deve ter pelo menos", "deve ter no máximo", "caracteres.", "Cada item de",
    "inválido. Valores aceites:", "deve ser uma data válida.", "tem formato inválido.",
    "Transição de estado inválida:", "->"]

theorem humanMessages_portuguese :
    ∀ text ∈ humanMessages.map Prod.snd, isPortuguese false (ofString text) = true := by
  apply portuguese_of_spelled
  · rw [humanMessages]
    repeat' apply Spelled.cons
    exact .nil
  · decide +kernel

theorem inheritedProperties_portuguese :
    ∀ text ∈ inheritedProperties.map Prod.snd, isPortuguese false (ofString text) = true := by
  apply portuguese_of_spelled
  · rw [inheritedProperties]
    repeat' apply Spelled.cons
    exact .nil
  · decide +kernel

theorem portuguese :
    ∀ text ∈ validationTexts, isPortuguese false (ofString text) = true := by
  apply portuguese_of_spelled
  · rw [validationTexts]
    repeat' apply Spelled.cons
    exact .nil
  · decide +kernel

/-- What stands behind words which need not end with a blank. -/
theorem portuguese_anywhere :
    ∀ text ∈ [".", "\" não é permitido."], isPortuguese true (ofString text) = true := by
  apply portuguese_of_spelled
  · repeat' apply Spelled.cons
    exact .nil
  · decide +kernel

theorem tableTexts_portuguese :
    ∀ text ∈ tableTexts, isPortuguese false (ofString text) = true :=
  List.forall_mem_append.mpr ⟨humanMessages_portuguese, inheritedProperties_portuguese⟩

theorem tableTexts_stop : ∀ text ∈ tableTexts, hasStop (ofString text) = true := by
  apply forall_of_spelled
  · rw [tableTexts, humanMessages, inheritedProperties]
    repeat' apply Spelled.cons
    exact .nil
  · decide +kernel

theorem noStop_ofList {chars : List Char} (checked : hasStop (chars.flatMap ofChar) = false) :
    hasStop (ofString (String.ofList chars)) = false := by
  rw [ofString, String.toList_ofList]
  exact checked

theorem humanMessages_noStop :
    ∀ entry ∈ humanMessages, hasStop (ofString entry.1) = false := by
  unfold humanMessages
  repeat' refine List.forall_mem_cons.mpr ⟨?_, ?_⟩
  all_goals first | exact noStop_ofList (by decide) | exact List.forall_mem_nil _

theorem inheritedProperties_noStop :
    ∀ entry ∈ inheritedProperties, hasStop (ofString entry.1) = false := by
  unfold inheritedProperties
  repeat' refine List.forall_mem_cons.mpr ⟨?_, ?_⟩
  all_goals first | exact noStop_ofList (by decide) | exact List.forall_mem_nil _

theorem hasStop_append (front : JsString) {back : JsString} (stop : hasStop back = true) :
    hasStop (front ++ back) = true := by
  rw [hasStop, List.any_append]
  exact Bool.or_eq_true_iff.mpr (.inr stop)

theorem stands_stop (own : JsString) :
    Stands validationPhrases isDigitOrUnderscore own (ofString ".") :=
  .inl (portuguese_anywhere _ List.mem_cons_self)

/-- Portuguese words behind a blank. -/
theorem stands_spaced (own : JsString) {words : JsString}
    (portuguese : isPortuguese false words = true) :
    Stands validationPhrases isDigitOrUnderscore (own ++ [0x20]) words :=
  .inr ⟨portuguese, .inr (by rw [List.getLast?_append_of_ne_nil _ (List.cons_ne_nil _ _)]; rfl)⟩

theorem stands_first {words : JsString} (portuguese : isPortuguese false words = true) :
    Stands validationPhrases isDigitOrUnderscore [] words :=
  .inr ⟨portuguese, .inl rfl⟩

/-! ## Own words of a translation -/

theorem stop_spaced : ofString " ." = 0x20 :: ofString "." := by
  decide

theorem spaced_stop : ofString ". " = ofString "." ++ [0x20] := by
  decide

theorem spaced_stop_spaced : ofString " . " = 0x20 :: (ofString "." ++ [0x20]) := by
  decide

theorem spaced_characters : ofString " caracteres." = 0x20 :: ofString "caracteres." := by
  decide

/-- Where one of the two succeeds the other does, and gives its own words. -/
abbrev Silences (translation words : Translation) : Prop :=
  ∀ message, Option.Rel Says (translation message) (words message)

theorem rel_bind {α : Type} {relation : JsString → JsString → Prop} (found : Option α)
    {left right : α → Option JsString} (each : ∀ a, Option.Rel relation (left a) (right a)) :
    Option.Rel relation (found.bind left) (found.bind right) := by
  cases found with
  | none =>
      exact .none
  | some a =>
      exact each a

theorem rel_ite {relation : JsString → JsString → Prop} (condition : Bool) {left right : JsString}
    (related : relation left right) :
    Option.Rel relation (if condition then some left else none)
      (if condition then some right else none) := by
  cases condition with
  | false =>
      exact .none
  | true =>
      exact .some related

theorem silences_property : Silences unexpectedProperty propertyWords := by
  intro message
  refine rel_bind _ fun rest => rel_bind _ fun field => rel_ite _ ?_
  have refusal : isPortuguese true (ofString "\" não é permitido.") = true :=
    portuguese_anywhere _ (List.mem_cons_of_mem _ List.mem_cons_self)
  have quote : "Campo \"" ∈ validationTexts := by
    decide
  have alike := Alike.beside (stands_first (portuguese _ quote)) (stands_stop [])
    (.beside (.inl refusal) (stands_stop (humanizeField field)) (.own []))
  simp only [List.nil_append, List.append_nil, ← List.append_assoc] at alike
  exact ⟨alike, hasStop_append _ (by decide), hasStop_append _ (by decide)⟩

theorem silences_field (phrase : String) {text words : String} (listed : words ∈ validationTexts)
    (shape : ofString text = 0x20 :: ofString words) (stop : hasStop (ofString text) = true) :
    Silences (fieldPhrase phrase text) (fieldPhrase phrase " .") := by
  intro message
  refine rel_bind _ fun field => rel_ite _ ⟨?_, hasStop_append _ stop, hasStop_append _ (by decide)⟩
  have alike := Alike.beside (stands_spaced (humanizeField field) (portuguese _ listed))
    (stands_stop (humanizeField field ++ [0x20])) (.own [])
  rw [shape, stop_spaced]
  simpa using alike

theorem silences_bound (phrase : String) {text words : String} (listed : words ∈ validationTexts)
    (shape : ofString text = 0x20 :: (ofString words ++ [0x20])) :
    Silences (boundPhrase phrase text) (boundPhrase phrase " . ") := by
  intro message
  refine rel_bind _ fun field => rel_ite _
    ⟨?_, hasStop_append _ (by decide), hasStop_append _ (by decide)⟩
  have alike := Alike.beside (stands_spaced (humanizeField field) (portuguese _ listed))
    (stands_stop (humanizeField field ++ [0x20])) (.own ([0x20] ++
      (splitRun isDigitOrUnderscore message).2.filter (fun unit => unit ≠ 0x5F) ++ ofString "."))
  rw [shape, spaced_stop_spaced]
  simpa using alike

/-- The name of a field and a number, with words of the translation behind each of them. -/
theorem alike_length (field count : JsString) {words : String} (listed : words ∈ validationTexts) :
    SameWords (field ++ 0x20 :: (ofString words ++ [0x20]) ++ count ++ ofString " caracteres.")
      (field ++ ofString " . " ++ count ++ ofString " .") := by
  have units : "caracteres." ∈ validationTexts := by
    decide
  have alike := Alike.beside (stands_spaced field (portuguese _ listed))
    (stands_stop (field ++ [0x20]))
    (.beside (stands_spaced (0x20 :: count) (portuguese _ units)) (stands_stop _) (.own []))
  rw [spaced_stop_spaced, stop_spaced, spaced_characters]
  simpa using alike

theorem silences_length (phrase : String) {text words : String} (listed : words ∈ validationTexts)
    (shape : ofString text = 0x20 :: (ofString words ++ [0x20])) :
    Silences (lengthPhrase phrase text) (lengthWords phrase) := by
  intro message
  refine rel_bind _ fun groups => .some
    ⟨?_, hasStop_append _ (by decide), hasStop_append _ (by decide)⟩
  rw [shape]
  exact alike_length (humanizeField groups.1) groups.2 listed

theorem silences_eachValue : Silences eachValueLength eachValueWords := by
  intro message
  refine rel_bind _ fun rest => rel_bind _ fun groups => .some
    ⟨?_, hasStop_append _ (by decide), hasStop_append _ (by decide)⟩
  have first : "Cada item de" ∈ validationTexts := by
    decide
  have second : "deve ter pelo menos" ∈ validationTexts := by
    decide
  have opening : ofString "Cada item de " = ofString "Cada item de" ++ [0x20] := by
    decide
  have middle : ofString " deve ter pelo menos " =
      0x20 :: (ofString "deve ter pelo menos" ++ [0x20]) := by
    decide
  have alike := Alike.beside (stands_first (portuguese _ first)) (stands_stop [])
    (alike_length (0x20 :: humanizeField groups.1) groups.2 second)
  rw [opening, middle, spaced_stop]
  simpa using alike

theorem silences_allowed : Silences allowedValues allowedWords := by
  intro message
  refine rel_bind _ fun groups => .some
    ⟨?_, hasStop_append _ (by decide), hasStop_append _ (by decide)⟩
  have refusal : "inválido. Valores aceites:" ∈ validationTexts := by
    decide
  have shape : ofString " inválido. Valores aceites: " =
      0x20 :: (ofString "inválido. Valores aceites:" ++ [0x20]) := by
    decide
  have alike := Alike.beside (stands_spaced (humanizeField groups.1) (portuguese _ refusal))
    (stands_stop (humanizeField groups.1 ++ [0x20])) (.own (0x20 :: (groups.2 ++ ofString ".")))
  rw [shape, spaced_stop_spaced]
  simpa using alike

theorem silences_pattern : Silences expectedPattern patternWords := by
  intro message
  refine rel_bind _ fun rest => rel_bind _ fun groups => .some
    ⟨?_, hasStop_append _ (by decide), hasStop_append _ (by decide)⟩
  have refusal : "tem formato inválido." ∈ validationTexts := by
    decide
  have shape : ofString " tem formato inválido." = 0x20 :: ofString "tem formato inválido." := by
    decide
  have alike := Alike.beside (stands_spaced (humanizeField groups.1) (portuguese _ refusal))
    (stands_stop (humanizeField groups.1 ++ [0x20])) (.own [])
  rw [shape, stop_spaced]
  simpa using alike

theorem silences_transition : Silences invalidTransition transitionWords := by
  intro message
  refine rel_bind _ fun rest => rel_bind _ fun groups => .some
    ⟨?_, hasStop_append _ (by decide), hasStop_append _ (by decide)⟩
  have first : "Transição de estado inválida:" ∈ validationTexts := by
    decide
  have arrow : "->" ∈ validationTexts := by
    decide
  have opening : ofString "Transição de estado inválida: " =
      ofString "Transição de estado inválida:" ++ [0x20] := by
    decide
  have middle : ofString " -> " = 0x20 :: (ofString "->" ++ [0x20]) := by
    decide
  have alike := Alike.beside (stands_first (portuguese _ first)) (stands_stop [])
    (.beside (stands_spaced (0x20 :: groups.1) (portuguese _ arrow)) (stands_stop _)
      (.own (0x20 :: (groups.2 ++ ofString "."))))
  rw [opening, middle, spaced_stop, spaced_stop_spaced]
  simpa using alike

theorem silences_validation :
    List.Forall₂ Silences validationTranslations validationWords :=
  .cons silences_property <|
    .cons (silences_field _ (show "é obrigatório." ∈ _ by decide) (by decide) (by decide)) <|
    .cons (silences_field _ (show "deve ser texto." ∈ _ by decide) (by decide) (by decide)) <|
    .cons (silences_field _ (show "deve ser um número inteiro." ∈ _ by decide) (by decide)
      (by decide)) <|
    .cons (silences_field _ (show "deve ser verdadeiro ou falso." ∈ _ by decide) (by decide)
      (by decide)) <|
    .cons (silences_bound _ (show "deve ser no mínimo" ∈ _ by decide) (by decide)) <|
    .cons (silences_bound _ (show "deve ser no máximo" ∈ _ by decide) (by decide)) <|
    .cons (silences_length _ (show "deve ter pelo menos" ∈ _ by decide) (by decide)) <|
    .cons (silences_length _ (show "deve ter no máximo" ∈ _ by decide) (by decide)) <|
    .cons silences_eachValue <| .cons silences_allowed <|
    .cons (silences_field _ (show "deve ser uma data válida." ∈ _ by decide) (by decide)
      (by decide)) <|
    .cons (silences_field _ (show "tem formato inválido." ∈ _ by decide) (by decide) (by decide)) <|
    .cons silences_pattern <| .cons silences_transition .nil

/-! ## Own words of a part -/

theorem rel_findSome? {translations words : List Translation}
    (silences : List.Forall₂ Silences translations words) (message : JsString) :
    Option.Rel Says (translations.findSome? fun translation => translation message)
      (words.findSome? fun other => other message) := by
  induction silences with
  | nil =>
      exact .none
  | @cons translation other translations words first rest inductionHypothesis =>
      rw [List.findSome?_cons, List.findSome?_cons]
      cases translated : translation message with
      | none =>
          have related := first message
          rw [translated] at related
          cases own : other message with
          | none =>
              exact inductionHypothesis
          | some text =>
              rw [own] at related
              cases related
      | some text =>
          have related := first message
          rw [translated] at related
          cases own : other message with
          | none =>
              rw [own] at related
              cases related
          | some otherText =>
              rw [own] at related
              exact related

/-- A part is kept as it is, or translated to Portuguese around its own words. -/
def Renders (part text words : JsString) : Prop :=
  text = part ∧ words = part ∨ Says text words

theorem Renders.same {part text words : JsString} (renders : Renders part text words) :
    SameWords text words := by
  rcases renders with ⟨rfl, rfl⟩ | spoke
  · exact .own _
  · exact spoke.same

theorem says_listed {table : List (String × String)}
    (translations : table.map Prod.snd ⊆ tableTexts) {part text : JsString}
    (found : textOf? table part = some text) : Says text (ofString ".") := by
  obtain ⟨entry, listed, _, rfl⟩ := exists_of_textOf? found
  have member := translations (List.mem_map_of_mem listed)
  have words := tableTexts_portuguese _ member
  have alike := Alike.beside (stands_first words) (stands_stop []) (.own [])
  simp only [List.nil_append, List.append_nil] at alike
  exact ⟨alike, tableTexts_stop _ member, by decide⟩

theorem renders_part {part : JsString} (isSolid : isPart part = true) :
    Renders part (humanizeSingleMessage part).toText (ownWordsOf part) := by
  have ⟨trimmed, filled⟩ := trim_of_isPart isSolid
  unfold humanizeSingleMessage ownWordsOf isListed
  dsimp only
  rw [trimmed, if_neg filled]
  cases known : textOf? humanMessages part with
  | some message =>
      exact .inr (says_listed (List.subset_append_left _ _) known)
  | none =>
      cases own : textOf? inheritedProperties part with
      | some inherited =>
          have read : (HumanMessage.inherited part).toText = inherited := by
            rw [HumanMessage.toText, own]
            rfl
          simp only [Option.isSome_some, if_true, Option.isSome_none, Bool.false_or, read]
          exact .inr (says_listed (List.subset_append_right _ _) own)
      | none =>
          have related := rel_findSome? silences_validation part
          rw [humanizeValidationMessage, trimmed, if_neg filled]
          simp only [Option.isSome_none, Bool.or_false, if_false, Bool.false_eq_true]
          generalize (validationTranslations.findSome? fun translation => translation part) =
            translated at related ⊢
          generalize (validationWords.findSome? fun words => words part) = own at related ⊢
          cases related with
          | none =>
              exact .inl ⟨rfl, rfl⟩
          | some spoke =>
              exact .inr spoke

/-! ## Own words of a message -/

theorem map_eraseDupsBy {α β : Type} [DecidableEq β] (f : α → β) (items : List α) :
    (items.map f).eraseDups = (items.eraseDupsBy fun a b => f a == f b).map f := by
  induction items using filter_induction (fun item other : α => (f other == f item) = false) with
  | nil =>
      rfl
  | cons item rest inductionHypothesis =>
      rw [List.map_cons, List.eraseDups_cons, List.eraseDupsBy_cons, List.map_cons,
        List.filter_map, ← inductionHypothesis]
      congr 4
      funext other
      rw [Function.comp_apply, Bool.eq_iff_iff]
      simp

theorem spoken_eq (input : JsString) : spoken input =
    [0x20].intercalate ((distinctParts input).map fun part =>
      (humanizeSingleMessage part).toText) := by
  rw [spoken, map_eraseDupsBy, joinMessages, List.map_map]
  rfl

theorem mem_of_mem_eraseDupsBy {α : Type} (same : α → α → Bool) {items : List α} :
    ∀ item ∈ items.eraseDupsBy same, item ∈ items := by
  induction items using filter_induction (fun item other : α => same other item = false) with
  | nil =>
      exact fun item listed => listed
  | cons first rest inductionHypothesis =>
      intro item listed
      rw [List.eraseDupsBy_cons] at listed
      rcases List.mem_cons.mp listed with rfl | later
      · exact List.mem_cons_self
      · exact List.mem_cons_of_mem _ (List.mem_filter.mp (inductionHypothesis item later)).1

theorem isPart_of_mem_distinctParts {input part : JsString}
    (listed : part ∈ distinctParts input) : isPart part = true :=
  isPart_of_mem_splitMessageParts (mem_of_mem_eraseDupsBy _ part listed)

/-- The translated parts and the own words of the parts, one after the other. -/
theorem spoken_same (input : JsString) : SameWords (spoken input) (ownWords input) := by
  rw [spoken_eq, ownWords]
  apply Alike.join
  refine List.forall₂_map_left_iff.mpr (List.forall₂_map_right_iff.mpr (List.forall₂_same.mpr ?_))
  intro part listed
  exact (renders_part (isPart_of_mem_distinctParts listed)).same

theorem hasStop_intercalate {texts : List JsString} {text : JsString} (listed : text ∈ texts)
    (stop : hasStop text = true) : hasStop ([0x20].intercalate texts) = true := by
  obtain ⟨unit, member, stops⟩ := List.any_eq_true.mp stop
  exact List.any_eq_true.mpr ⟨unit, Ecma.mem_intercalate listed member, stops⟩

/-- Either no part is translated, or both texts have a full stop. -/
theorem spoken_cases (input : JsString) : spoken input = ownWords input ∨
    hasStop (spoken input) = true ∧ hasStop (ownWords input) = true := by
  rw [spoken_eq, ownWords]
  by_cases kept : ∀ part ∈ distinctParts input,
      (humanizeSingleMessage part).toText = ownWordsOf part
  · exact .inl (congrArg _ (List.map_congr_left kept))
  · push Not at kept
    obtain ⟨part, listed, differs⟩ := kept
    rcases renders_part (isPart_of_mem_distinctParts listed) with ⟨text, words⟩ | spoke
    · exact absurd (text.trans words.symm) differs
    · exact .inr ⟨hasStop_intercalate (List.mem_map_of_mem listed) spoke.textStops,
        hasStop_intercalate (List.mem_map_of_mem listed) spoke.wordsStop⟩

/-! ## Messages in the own words -/

/-- The words are a message of the tables or have the form of a validation message. -/
def FormsMessage (words : JsString) : Prop :=
  isListed words = true ∨ IsValidation words

theorem not_isListed {text : JsString} (stop : hasStop text = true) : isListed text = false := by
  have missing : ∀ table : List (String × String),
      (∀ entry ∈ table, hasStop (ofString entry.1) = false) → textOf? table text = none := by
    intro table plain
    cases found : textOf? table text with
    | none =>
        rfl
    | some other =>
        obtain ⟨entry, listed, rfl, _⟩ := exists_of_textOf? found
        rw [plain entry listed] at stop
        cases stop
  rw [isListed, missing _ humanMessages_noStop, missing _ inheritedProperties_noStop]
  rfl

theorem isListed_spoken (input : JsString) :
    isListed (spoken input) = isListed (ownWords input) := by
  rcases spoken_cases input with same | ⟨textStops, wordsStop⟩
  · rw [same]
  · rw [not_isListed textStops, not_isListed wordsStop]

/-- The runs of the patterns are of digits and underscores. -/
theorem runs_known : ∀ pattern ∈ validationPatterns, ∀ kind, Gap.run kind ∈ pattern.gaps →
    ∀ unit, kind unit = true → isDigitOrUnderscore unit = true := by
  have kinds : ∀ pattern ∈ validationPatterns, ∀ kind, Gap.run kind ∈ pattern.gaps →
      kind = isDigit ∨ kind = isDigitOrUnderscore := by
    simp [validationPatterns, propertyPattern, fieldPattern, boundPattern, lengthPattern,
      valuesPattern, matchPattern, transitionPattern, Pattern.gaps]
  intro pattern listed kind run unit digit
  rcases kinds pattern listed kind run with rfl | rfl
  · rw [isDigitOrUnderscore, digit, Bool.true_or]
  · exact digit

theorem isValidation_of_same {left right : JsString} (same : SameWords left right)
    (validation : IsValidation left) : IsValidation right := by
  obtain ⟨pattern, listed, reads⟩ := validation
  exact ⟨pattern, listed, same.reads
    (fun phrase known => List.mem_flatMap.mpr ⟨pattern, listed, known⟩)
    (runs_known pattern listed) reads⟩

theorem isMessage_iff {text : JsString} (part : isPart text = true) :
    isMessage text = true ↔ FormsMessage text := by
  have ⟨trimmed, filled⟩ := trim_of_isPart part
  rw [isMessage, FormsMessage, ← humanizeValidationMessage_isSome_iff trimmed filled, isListed]
  exact Bool.or_eq_true_iff

/-- The second pass leaves a message alone exactly if no part is the one whose translation has
commas, and the own words of the parts form no further message. -/
theorem humanizeMessage_twice_iff (input : JsString) :
    humanizeMessage (humanizeMessage input) = humanizeMessage input ↔
      ofString invalidCharacters ∉ splitMessageParts input ∧ ¬ FormsMessage (ownWords input) := by
  rw [humanizeMessage_twice_spoken]
  apply and_congr_right
  intro free
  have forms : IsValidation (spoken input) ↔ IsValidation (ownWords input) :=
    ⟨isValidation_of_same (spoken_same input), isValidation_of_same (spoken_same input).symm⟩
  by_cases filled : splitMessageParts input = []
  · have silent : ownWords input = [] := by
      rw [ownWords, distinctParts, filled]
      rfl
    have none : spoken input = [] := (spoken_same input).symm.eq_nil silent
    have unlisted := isListed_spoken input
    rw [none] at unlisted
    have nothing := isMessage_nil
    rw [isMessage, ← isListed, Bool.or_eq_false_iff] at nothing
    rw [none, silent, isMessage_nil]
    refine iff_of_true rfl ?_
    rintro (listed | validation)
    · rw [nothing.1] at listed
      cases listed
    · exact not_isValidation_nil validation
  · have part := isPart_humanizeMessage filled free
    rw [humanizeMessage_of_parts filled] at part
    rw [← Bool.not_eq_true, isMessage_iff part, FormsMessage, FormsMessage, isListed_spoken, forms]

/-- The commas of the translation are lost. -/
theorem second_pass_drops_commas :
    humanizeMessage (humanizeMessage (ofString "name contains invalid characters")) ≠
      humanizeMessage (ofString "name contains invalid characters") := by
  apply humanizeMessage_loses_commas
  have part : isPart (ofString "name contains invalid characters") = true :=
    isPart_ofList (by decide)
  rw [splitMessageParts_of_isPart part]
  exact List.mem_cons_self

end Tchuno.Web
