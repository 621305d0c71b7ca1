import Mathlib.Data.List.Nodup
import Tchuno.Library.Texts
import Tchuno.Web.HttpErrors

/-!
# Translating twice

`parseApiError` translates messages which are already translated.  The second pass leaves a
text alone if it finds no comma in it and no further message.
-/

namespace Tchuno.Web

open Tchuno.Library Tchuno.Library.JsString

/-! ## Parts -/

/-- A part of a message: solid at both ends and without a comma. -/
def isPart (text : JsString) : Bool :=
  startsSolid text && endsSolid text && !text.contains 0x2C

theorem isPart_iff {text : JsString} :
    isPart text = true ↔ startsSolid text = true ∧ endsSolid text = true ∧ 0x2C ∉ text := by
  rw [isPart, Bool.and_eq_true, Bool.and_eq_true, Bool.not_eq_true', and_assoc]
  rw [← Bool.not_eq_true, List.contains_iff_mem]

theorem isPart_of_stop {text : JsString} (starts : startsSolid text = true)
    (stop : text.getLast? = some 0x2E) (noComma : 0x2C ∉ text) : isPart text = true := by
  have ends : endsSolid text = true := by
    rw [endsSolid, stop]
    decide
  exact isPart_iff.mpr ⟨starts, ends, noComma⟩

/-! ## Tables -/

/-- The message whose translation has commas. -/
def invalidCharacters : String :=
  "name contains invalid characters"

def translatedCharacters : String :=
  "Nome contém caracteres inválidos. Usa apenas letras, números, espaço, _ ou -."

/-- A message other than this one with a text in its place. -/
def fits (message text : JsString) : Bool :=
  isPart message && isPart text && message ≠ text && message.head? ≠ some 0x6E

/-- Checks are made on the characters of a text. -/
theorem isPart_ofList {chars : List Char} (checked : isPart (chars.flatMap ofChar) = true) :
    isPart (ofString (String.ofList chars)) = true := by
  rw [ofString, String.toList_ofList]
  exact checked

theorem fits_ofList {message text : List Char}
    (checked : fits (message.flatMap ofChar) (text.flatMap ofChar) = true) :
    fits (ofString (String.ofList message)) (ofString (String.ofList text)) = true := by
  rw [ofString, String.toList_ofList, ofString, String.toList_ofList]
  exact checked

theorem fieldLabels_parts : ∀ entry ∈ fieldLabels, isPart (ofString entry.2) = true := by
  unfold fieldLabels
  repeat' refine List.forall_mem_cons.mpr ⟨?_, ?_⟩
  all_goals first | exact isPart_ofList (by decide) | exact List.forall_mem_nil _

theorem inheritedProperties_fit :
    ∀ entry ∈ inheritedProperties, fits (ofString entry.1) (ofString entry.2) = true := by
  unfold inheritedProperties
  repeat' refine List.forall_mem_cons.mpr ⟨?_, ?_⟩
  all_goals first | exact fits_ofList (by decide) | exact List.forall_mem_nil _

theorem humanMessages_fit :
    ∀ entry ∈ humanMessages, entry = (invalidCharacters, translatedCharacters) ∨
      fits (ofString entry.1) (ofString entry.2) = true := by
  unfold humanMessages
  repeat' refine List.forall_mem_cons.mpr ⟨?_, ?_⟩
  all_goals first
    | exact .inr (fits_ofList (by decide))
    | exact .inl rfl
    | exact List.forall_mem_nil _

theorem exists_of_textOf? {table : List (String × String)} {key text : JsString}
    (found : textOf? table key = some text) :
    ∃ entry ∈ table, ofString entry.1 = key ∧ ofString entry.2 = text := by
  obtain ⟨entry, listed, rfl⟩ := Option.map_eq_some_iff.mp found
  have accepted := List.find?_some listed
  exact ⟨entry, List.mem_of_find?_eq_some listed, by simpa using accepted, rfl⟩

theorem fits_iff {message text : JsString} :
    fits message text = true ↔ isPart message = true ∧ isPart text = true ∧ text ≠ message ∧
      message.head? ≠ some 0x6E := by
  simp only [fits, Bool.and_eq_true, decide_eq_true_eq, and_assoc, ne_comm]

theorem isPart_fieldLabel {key text : JsString} (found : textOf? fieldLabels key = some text) :
    isPart text = true := by
  obtain ⟨entry, listed, _, rfl⟩ := exists_of_textOf? found
  exact fieldLabels_parts entry listed

theorem fits_inherited {key text : JsString}
    (found : textOf? inheritedProperties key = some text) : fits key text = true := by
  obtain ⟨entry, listed, rfl, rfl⟩ := exists_of_textOf? found
  exact inheritedProperties_fit entry listed

theorem head?_invalidCharacters : (ofString invalidCharacters).head? = some 0x6E := by
  decide

/-- A message of the table fits its translation, or is the one with commas. -/
theorem fits_message {key text : JsString} (found : textOf? humanMessages key = some text) :
    key = ofString invalidCharacters ∧ text = ofString translatedCharacters ∨
      fits key text = true := by
  obtain ⟨entry, listed, rfl, rfl⟩ := exists_of_textOf? found
  rcases humanMessages_fit entry listed with rfl | fit
  · exact .inl ⟨rfl, rfl⟩
  · exact .inr fit

/-! ## Fields -/

theorem startsSolid_dropWhile {text : JsString} (filled : text.dropWhile isWhiteSpace ≠ []) :
    startsSolid (text.dropWhile isWhiteSpace) = true := by
  have first := List.head?_dropWhile_not isWhiteSpace text
  cases dropped : text.dropWhile isWhiteSpace with
  | nil =>
      exact absurd dropped filled
  | cons unit rest =>
      rw [dropped] at first
      simpa [startsSolid] using first

theorem ne_nil_of_endsSolid {text : JsString} (ends : endsSolid text = true) : text ≠ [] := by
  rintro rfl
  cases ends

/-- White space before a solid end leaves this end. -/
theorem dropWhile_ne_nil {text : JsString} (ends : endsSolid text = true) :
    text.dropWhile isWhiteSpace ≠ [] := by
  intro empty
  have blank := List.dropWhile_eq_nil_iff.mp empty
  obtain ⟨unit, last⟩ := Option.ne_none_iff_exists'.mp
    (mt List.getLast?_eq_none_iff.mp (ne_nil_of_endsSolid ends))
  have member : unit ∈ text := List.mem_of_getLast? last
  rw [endsSolid, last, Option.any_some, blank unit member] at ends
  cases ends

theorem startsSolid_dropPropertyWord {field : JsString} (starts : startsSolid field = true)
    (ends : endsSolid field = true) : startsSolid (dropPropertyWord field) = true := by
  unfold dropPropertyWord
  split
  · rename_i rest matched
    split
    · rename_i spaced
      obtain ⟨word, shape, _⟩ := eq_of_afterPhrase? matched
      have filled : rest ≠ [] := by
        rintro rfl
        cases spaced
      have restEnds : endsSolid rest = true :=
        @endsSolid_of_append word rest filled (shape ▸ ends)
      exact startsSolid_dropWhile (dropWhile_ne_nil restEnds)
    · exact starts
  · exact starts

theorem mem_of_mem_dropPropertyWord {field : JsString} {unit : UInt16}
    (member : unit ∈ dropPropertyWord field) : unit ∈ field := by
  unfold dropPropertyWord at member
  split at member
  · rename_i rest matched
    split at member
    · obtain ⟨word, shape, _⟩ := eq_of_afterPhrase? matched
      rw [shape]
      exact List.mem_append_right _ ((List.dropWhile_sublist _).mem member)
    · exact member
  · exact member

/-- A label, the text of an inherited property or the field itself. -/
theorem humanizeField_cases (field : JsString) :
    isPart (humanizeField field) = true ∨ humanizeField field = dropPropertyWord field.trim := by
  unfold humanizeField
  dsimp only
  cases label : textOf? fieldLabels (dropPropertyWord field.trim) with
  | some text =>
      exact .inl (isPart_fieldLabel label)
  | none =>
      cases own : textOf? inheritedProperties (dropPropertyWord field.trim) with
      | some text =>
          exact .inl (fits_iff.mp (fits_inherited own)).2.1
      | none =>
          exact .inr rfl

theorem humanizeField_noComma {field : JsString} (noComma : 0x2C ∉ field) :
    0x2C ∉ humanizeField field := by
  rcases humanizeField_cases field with part | same
  · exact (isPart_iff.mp part).2.2
  · rw [same]
    intro member
    exact noComma (mem_of_mem_trim (mem_of_mem_dropPropertyWord member))

theorem startsSolid_humanizeField {field : JsString} (starts : startsSolid field = true) :
    startsSolid (humanizeField field) = true := by
  rcases humanizeField_cases field with part | same
  · exact (isPart_iff.mp part).1
  · have filled : field.trim ≠ [] := by
      cases field with
      | nil =>
          cases starts
      | cons unit rest =>
          have solid : isWhiteSpace unit = false := by
            simpa [startsSolid] using starts
          exact (trim_shortens solid).2
    obtain ⟨trimStarts, trimEnds⟩ := solid_trim filled
    rw [same]
    exact startsSolid_dropPropertyWord trimStarts trimEnds

/-! ## Patterns -/

/-- A translation of a part is a part, and another text. -/
def Sound (translation : Translation) : Prop :=
  ∀ message text, isPart message = true → translation message = some text →
    isPart text = true ∧ text ≠ message

theorem getLast?_append_phrase (front : JsString) {phrase back : JsString} {unit : UInt16}
    (last : phrase.getLast? = some unit) (same : sameIgnoringCase back phrase = true) :
    (front ++ back).getLast?.map foldCase = some (foldCase unit) := by
  have mapped := getLast?_of_sameIgnoringCase same
  rw [last] at mapped
  have filled : back ≠ [] := by
    rintro rfl
    cases mapped
  rw [List.getLast?_append_of_ne_nil _ filled]
  exact mapped

theorem head?_append_phrase {phrase front : JsString} {unit : UInt16}
    (first : phrase.head? = some unit) (same : sameIgnoringCase front phrase = true)
    (back : JsString) : (front ++ back).head?.map foldCase = some (foldCase unit) := by
  have mapped := congrArg List.head? (of_decide_eq_true same)
  rw [List.head?_map, List.head?_map, first] at mapped
  have filled : front ≠ [] := by
    rintro rfl
    cases mapped
  rw [List.head?_append_of_ne_nil _ filled]
  exact mapped

/-- A text with a full stop at its end is not one that ends with a letter. -/
theorem ne_of_stop {text message : JsString} (stop : text.getLast? = some 0x2E)
    {unit : UInt16} (last : message.getLast?.map foldCase = some unit) (other : unit ≠ 0x2E) :
    text ≠ message := by
  rintro rfl
  rw [stop] at last
  exact other (Option.some.inj last).symm

theorem getLast?_append_stop (front : JsString) {text : JsString}
    (last : text.getLast? = some 0x2E) : (front ++ text).getLast? = some 0x2E := by
  have filled : text ≠ [] := by
    rintro rfl
    cases last
  rw [List.getLast?_append_of_ne_nil _ filled, last]

theorem notMem_append {unit : UInt16} {left right : JsString} (inLeft : unit ∉ left)
    (inRight : unit ∉ right) : unit ∉ left ++ right := by
  intro member
  rcases List.mem_append.mp member with first | second
  · exact inLeft first
  · exact inRight second

theorem notMem_of_append {unit : UInt16} {left right : JsString} (absent : unit ∉ left ++ right) :
    unit ∉ left ∧ unit ∉ right :=
  ⟨fun member => absent (List.mem_append_left _ member),
    fun member => absent (List.mem_append_right _ member)⟩

theorem sound_unexpectedProperty : Sound unexpectedProperty := by
  intro message result part translated
  have ⟨_, _, noComma⟩ := isPart_iff.mp part
  obtain ⟨rest, after, inner⟩ := Option.bind_eq_some_iff.mp translated
  obtain ⟨field, matched, accepted⟩ := Option.bind_eq_some_iff.mp inner
  obtain ⟨front, rfl, _⟩ := eq_of_afterPhrase? after
  obtain ⟨back, rfl, same⟩ := eq_of_beforePhrase? matched
  split at accepted
  · obtain rfl := Option.some.inj accepted
    have fieldPlain := (notMem_of_append (notMem_of_append noComma).2).1
    have stop := getLast?_append_stop (ofString "Campo \"" ++ humanizeField field)
      (show (ofString "\" não é permitido.").getLast? = some 0x2E by decide)
    have last := getLast?_append_phrase (front ++ field)
      (show (ofString " should not exist").getLast? = some 0x74 by decide) same
    rw [List.append_assoc] at last
    refine ⟨isPart_of_stop ?_ stop ?_, ne_of_stop stop last (by decide)⟩
    · rw [List.append_assoc]
      exact startsSolid_append _ (by decide)
    · exact notMem_append (notMem_append (by decide) (humanizeField_noComma fieldPlain))
        (by decide)
  · cases accepted

theorem sound_fieldPhrase {phrase text : String}
    (letter : ((ofString phrase).getLast?.any fun unit => foldCase unit ≠ 0x2E) = true)
    (textLast : (ofString text).getLast? = some 0x2E) (textPlain : 0x2C ∉ ofString text) :
    Sound (fieldPhrase phrase text) := by
  intro message result part translated
  obtain ⟨unit, phraseLast, differs⟩ := (Option.any_eq_true _ _).mp letter
  have other := of_decide_eq_true differs
  have ⟨starts, _, noComma⟩ := isPart_iff.mp part
  obtain ⟨field, matched, accepted⟩ := Option.bind_eq_some_iff.mp translated
  obtain ⟨back, rfl, same⟩ := eq_of_beforePhrase? matched
  split at accepted
  · rename_i line
    obtain rfl := Option.some.inj accepted
    have fieldStarts := startsSolid_of_append (ne_nil_of_isLine line) starts
    have fieldPlain := (notMem_of_append noComma).1
    have stop := getLast?_append_stop (humanizeField field) textLast
    refine ⟨isPart_of_stop ?_ stop ?_,
      ne_of_stop stop (getLast?_append_phrase field phraseLast same) other⟩
    · exact startsSolid_append _ (startsSolid_humanizeField fieldStarts)
    · exact notMem_append (humanizeField_noComma fieldPlain) textPlain
  · cases accepted

/-- A run at the end of a text consists of units of its kind. -/
theorem kind_of_splitRun {kind : UInt16 → Bool} {text : JsString}
    (some_unit : (splitRun kind text).2 ≠ []) :
    ∃ unit, text.getLast? = some unit ∧ kind unit = true := by
  obtain ⟨unit, last⟩ := Option.ne_none_iff_exists'.mp
    (mt List.getLast?_eq_none_iff.mp some_unit)
  refine ⟨unit, ?_, List.mem_rtakeWhile_imp (List.mem_of_getLast? last)⟩
  rw [← splitRun_append kind text, List.getLast?_append_of_ne_nil _ some_unit, last]

theorem sound_boundPhrase {phrase text : String} (textPlain : 0x2C ∉ ofString text) :
    Sound (boundPhrase phrase text) := by
  intro message result part translated
  have ⟨starts, _, noComma⟩ := isPart_iff.mp part
  obtain ⟨field, matched, accepted⟩ := Option.bind_eq_some_iff.mp translated
  obtain ⟨back, shape, _⟩ := eq_of_beforePhrase? matched
  have whole := splitRun_append isDigitOrUnderscore message
  rw [shape] at whole
  split at accepted
  · rename_i found
    rw [Bool.and_eq_true, decide_eq_true_eq] at found
    obtain rfl := Option.some.inj accepted
    obtain ⟨unit, last, kind⟩ := kind_of_splitRun found.2
    rw [← whole, List.append_assoc] at starts noComma
    have fieldStarts := startsSolid_of_append (ne_nil_of_isLine found.1) starts
    have ⟨fieldPlain, rest⟩ := notMem_of_append noComma
    have numberPlain := (notMem_of_append rest).2
    have stop := getLast?_append_stop (humanizeField field ++ ofString text ++
      (splitRun isDigitOrUnderscore message).2.filter (fun unit => unit ≠ 0x5F))
      (show (ofString ".").getLast? = some 0x2E by decide)
    have differs : unit ≠ 0x2E := by
      rintro rfl
      exact absurd kind (by decide)
    refine ⟨isPart_of_stop ?_ stop ?_, ?_⟩
    · rw [List.append_assoc, List.append_assoc]
      exact startsSolid_append _ (startsSolid_humanizeField fieldStarts)
    · exact notMem_append (notMem_append (notMem_append (humanizeField_noComma fieldPlain)
        textPlain) fun member => numberPlain (List.mem_of_mem_filter member)) (by decide)
    · intro same
      rw [same, last] at stop
      exact differs (Option.some.inj stop)
  · cases accepted

/-- The groups are parts of the message. -/
theorem eq_of_countedCharacters? {phrase : String} {message field count : JsString}
    (found : countedCharacters? phrase message = some (field, count)) :
    ∃ middle back, message = field ++ (middle ++ (count ++ back)) ∧ isLine field = true ∧
      sameIgnoringCase back (ofString " characters") = true := by
  obtain ⟨counted, characters, inner⟩ := Option.bind_eq_some_iff.mp found
  obtain ⟨named, matched, accepted⟩ := Option.bind_eq_some_iff.mp inner
  obtain ⟨back, rfl, same⟩ := eq_of_beforePhrase? characters
  obtain ⟨middle, shape, _⟩ := eq_of_beforePhrase? matched
  have whole := splitRun_append isDigit counted
  rw [shape] at whole
  split at accepted
  · rename_i lines
    obtain ⟨rfl, rfl⟩ := Prod.mk.inj (Option.some.inj accepted)
    rw [Bool.and_eq_true] at lines
    refine ⟨middle, back, ?_, lines.1, same⟩
    rw [← List.append_assoc middle, ← List.append_assoc, ← List.append_assoc, whole]
  · cases accepted

theorem sound_lengthPhrase {phrase text : String} (textPlain : 0x2C ∉ ofString text) :
    Sound (lengthPhrase phrase text) := by
  intro message result part translated
  have ⟨starts, _, noComma⟩ := isPart_iff.mp part
  obtain ⟨⟨field, count⟩, found, accepted⟩ := Option.bind_eq_some_iff.mp translated
  obtain ⟨middle, back, rfl, line, same⟩ := eq_of_countedCharacters? found
  obtain rfl := Option.some.inj accepted
  have fieldStarts := startsSolid_of_append (ne_nil_of_isLine line) starts
  have ⟨fieldPlain, rest⟩ := notMem_of_append noComma
  have countPlain := (notMem_of_append (notMem_of_append rest).2).1
  have stop := getLast?_append_stop (humanizeField field ++ ofString text ++ count)
    (show (ofString " caracteres.").getLast? = some 0x2E by decide)
  have last := getLast?_append_phrase (field ++ (middle ++ count))
    (show (ofString " characters").getLast? = some 0x73 by decide) same
  rw [List.append_assoc, List.append_assoc] at last
  refine ⟨isPart_of_stop ?_ stop ?_, ne_of_stop stop last (by decide)⟩
  · rw [List.append_assoc, List.append_assoc]
    exact startsSolid_append _ (startsSolid_humanizeField fieldStarts)
  · exact notMem_append (notMem_append (notMem_append (humanizeField_noComma fieldPlain)
      textPlain) countPlain) (by decide)

theorem sound_eachValueLength : Sound eachValueLength := by
  intro message result part translated
  have ⟨_, _, noComma⟩ := isPart_iff.mp part
  obtain ⟨rest, after, inner⟩ := Option.bind_eq_some_iff.mp translated
  obtain ⟨⟨field, count⟩, found, accepted⟩ := Option.bind_eq_some_iff.mp inner
  obtain ⟨front, rfl, _⟩ := eq_of_afterPhrase? after
  obtain ⟨middle, back, rfl, line, same⟩ := eq_of_countedCharacters? found
  obtain rfl := Option.some.inj accepted
  have ⟨fieldPlain, others⟩ := notMem_of_append (notMem_of_append noComma).2
  have countPlain := (notMem_of_append (notMem_of_append others).2).1
  have stop := getLast?_append_stop (ofString "Cada item de " ++ humanizeField field ++
    ofString " deve ter pelo menos " ++ count)
    (show (ofString " caracteres.").getLast? = some 0x2E by decide)
  have last := getLast?_append_phrase (front ++ (field ++ (middle ++ count)))
    (show (ofString " characters").getLast? = some 0x73 by decide) same
  rw [List.append_assoc, List.append_assoc, List.append_assoc] at last
  refine ⟨isPart_of_stop ?_ stop ?_, ne_of_stop stop last (by decide)⟩
  · rw [List.append_assoc, List.append_assoc, List.append_assoc]
    exact startsSolid_append _ (by decide)
  · exact notMem_append (notMem_append (notMem_append (notMem_append (by decide)
      (humanizeField_noComma fieldPlain)) (by decide)) countPlain) (by decide)

/-- Before the last unit of the list the two texts would have to end with the same unit. -/
theorem listedValues_ne (label : JsString) {field middle values : JsString}
    (same : sameIgnoringCase middle (ofString " must be one of the following values: ") = true)
    (filled : values ≠ []) :
    label ++ ofString " inválido. Valores aceites: " ++ values ++ ofString "." ≠
      field ++ (middle ++ values) := by
  intro equal
  obtain ⟨first, others, rfl⟩ := List.exists_cons_of_ne_nil filled
  have stop : ofString "." = [0x2E] := by
    decide
  have divided : (label ++ ofString " inválido. Valores aceites: " ++ [first]) ++
      (others ++ [0x2E]) = (field ++ middle) ++ (first :: others) := by
    rw [stop, ← List.append_assoc] at equal
    simpa using equal
  have shorter := List.append_inj_left' divided (by simp)
  have cut : label ++ ofString " inválido. Valores aceites: " = field ++ middle.dropLast := by
    have nonempty : middle ≠ [] := by
      rintro rfl
      exact absurd same (by decide)
    rw [← List.dropLast_append_of_ne_nil nonempty, ← shorter, List.dropLast_concat]
  have colon : sameIgnoringCase middle.dropLast
      (ofString " must be one of the following values: ").dropLast = true := by
    apply decide_eq_true
    rw [List.map_dropLast, List.map_dropLast, of_decide_eq_true same]
  have last := getLast?_append_phrase field
    (show (ofString " must be one of the following values: ").dropLast.getLast? = some 0x3A by
      decide) colon
  have blank : (label ++ ofString " inválido. Valores aceites: ").getLast? = some 0x20 := by
    rw [List.getLast?_append_of_ne_nil _ (by decide)]
    decide
  rw [← cut, blank] at last
  exact absurd last (by decide)

theorem sound_allowedValues : Sound allowedValues := by
  intro message result part translated
  have ⟨starts, _, noComma⟩ := isPart_iff.mp part
  obtain ⟨⟨field, values⟩, found, accepted⟩ := Option.bind_eq_some_iff.mp translated
  obtain ⟨middle, rfl, same, line, valuesLine⟩ := eq_of_splitAtPhrase? found
  obtain rfl := Option.some.inj accepted
  have fieldStarts := startsSolid_of_append (ne_nil_of_isLine line) starts
  have ⟨fieldPlain, rest⟩ := notMem_of_append noComma
  have valuesPlain := (notMem_of_append rest).2
  have stop := getLast?_append_stop (humanizeField field ++
    ofString " inválido. Valores aceites: " ++ values)
    (show (ofString ".").getLast? = some 0x2E by decide)
  refine ⟨isPart_of_stop ?_ stop ?_, listedValues_ne _ same (ne_nil_of_isLine valuesLine)⟩
  · rw [List.append_assoc, List.append_assoc]
    exact startsSolid_append _ (startsSolid_humanizeField fieldStarts)
  · exact notMem_append (notMem_append (notMem_append (humanizeField_noComma fieldPlain)
      (by decide)) valuesPlain) (by decide)

theorem sound_expectedPattern : Sound expectedPattern := by
  intro message result part translated
  have ⟨starts, _, noComma⟩ := isPart_iff.mp part
  obtain ⟨rest, before, inner⟩ := Option.bind_eq_some_iff.mp translated
  obtain ⟨⟨field, pattern⟩, found, accepted⟩ := Option.bind_eq_some_iff.mp inner
  obtain ⟨back, rfl, same⟩ := eq_of_beforePhrase? before
  obtain ⟨middle, rfl, _, line, _⟩ := eq_of_splitAtPhrase? found
  obtain rfl := Option.some.inj accepted
  have stop := getLast?_append_stop (humanizeField field)
    (show (ofString " tem formato inválido.").getLast? = some 0x2E by decide)
  have last := getLast?_append_phrase (field ++ (middle ++ pattern))
    (show (ofString " regular expression").getLast? = some 0x6E by decide) same
  refine ⟨isPart_of_stop ?_ stop ?_, ne_of_stop stop last (by decide)⟩
  · have fieldStarts := startsSolid_of_append (ne_nil_of_isLine line)
      (List.append_assoc field _ back ▸ starts)
    exact startsSolid_append _ (startsSolid_humanizeField fieldStarts)
  · have fieldPlain := (notMem_of_append (notMem_of_append noComma).1).1
    exact notMem_append (humanizeField_noComma fieldPlain) (by decide)

theorem sound_invalidTransition : Sound invalidTransition := by
  intro message result part translated
  have ⟨_, _, noComma⟩ := isPart_iff.mp part
  obtain ⟨rest, after, inner⟩ := Option.bind_eq_some_iff.mp translated
  obtain ⟨⟨source, target⟩, found, accepted⟩ := Option.bind_eq_some_iff.mp inner
  obtain ⟨front, rfl, same⟩ := eq_of_afterPhrase? after
  obtain ⟨middle, rfl, _, _, _⟩ := eq_of_splitAtPhrase? found
  obtain rfl := Option.some.inj accepted
  have ⟨sourcePlain, others⟩ := notMem_of_append (notMem_of_append noComma).2
  have targetPlain := (notMem_of_append others).2
  have stop := getLast?_append_stop (ofString "Transição de estado inválida: " ++ source ++
    ofString " -> " ++ target) (show (ofString ".").getLast? = some 0x2E by decide)
  refine ⟨isPart_of_stop ?_ stop ?_, ?_⟩
  · rw [List.append_assoc, List.append_assoc, List.append_assoc]
    exact startsSolid_append _ (by decide)
  · exact notMem_append (notMem_append (notMem_append (notMem_append (by decide) sourcePlain)
      (by decide)) targetPlain) (by decide)
  · intro equal
    have opening := congrArg (fun text => text.head?.map foldCase) equal
    have letter := head?_append_phrase
      (show (ofString "Invalid transition from ").head? = some 0x49 by decide) same
      (source ++ (middle ++ target))
    rw [letter] at opening
    change some (foldCase 0x54) = some (foldCase 0x49) at opening
    exact absurd opening (by decide)

theorem sound_validationTranslations :
    ∀ translation ∈ validationTranslations, Sound translation := by
  simp only [validationTranslations, List.forall_mem_cons, List.not_mem_nil, false_imp_iff,
    implies_true, and_true]
  exact ⟨sound_unexpectedProperty,
    sound_fieldPhrase (by decide) (by decide) (by decide),
    sound_fieldPhrase (by decide) (by decide) (by decide),
    sound_fieldPhrase (by decide) (by decide) (by decide),
    sound_fieldPhrase (by decide) (by decide) (by decide),
    sound_boundPhrase (by decide), sound_boundPhrase (by decide),
    sound_lengthPhrase (by decide), sound_lengthPhrase (by decide),
    sound_eachValueLength, sound_allowedValues,
    sound_fieldPhrase (by decide) (by decide) (by decide),
    sound_fieldPhrase (by decide) (by decide) (by decide),
    sound_expectedPattern, sound_invalidTransition⟩

/-! ## One message -/

/-- The text is a message of the tables or has the form of a validation message. -/
def isMessage (text : JsString) : Bool :=
  (textOf? humanMessages text).isSome || (textOf? inheritedProperties text).isSome ||
    (humanizeValidationMessage text).isSome

theorem trim_of_isPart {text : JsString} (part : isPart text = true) :
    text.trim = text ∧ text.length ≠ 0 := by
  have ⟨starts, ends, _⟩ := isPart_iff.mp part
  exact ⟨trim_of_solid starts ends, fun none =>
    ne_nil_of_endsSolid ends (List.length_eq_zero_iff.mp none)⟩

theorem sound_validation {message text : JsString} (part : isPart message = true)
    (translated : humanizeValidationMessage message = some text) :
    isPart text = true ∧ text ≠ message := by
  have ⟨trimmed, filled⟩ := trim_of_isPart part
  rw [humanizeValidationMessage, trimmed, if_neg filled] at translated
  obtain ⟨translation, listed, accepted⟩ := List.exists_of_findSome?_eq_some translated
  exact sound_validationTranslations translation listed message text part accepted

/-- A part is kept exactly if it is no message; its text is a part again, unless it is the
one translation that has commas. -/
theorem humanizeSingleMessage_part {text : JsString} (part : isPart text = true) :
    ((humanizeSingleMessage text).toText = text ↔ isMessage text = false) ∧
      (text ≠ ofString invalidCharacters →
        isPart (humanizeSingleMessage text).toText = true) := by
  have ⟨trimmed, filled⟩ := trim_of_isPart part
  unfold humanizeSingleMessage isMessage
  dsimp only
  rw [trimmed, if_neg filled]
  cases known : textOf? humanMessages text with
  | some message =>
      rcases fits_message known with ⟨same, translation⟩ | fit
      · have differs : message ≠ text := by
          rw [same, translation]
          decide +kernel
        exact ⟨⟨fun equal => absurd equal differs, fun unknown => by cases unknown⟩,
          fun other => absurd same other⟩
      · have ⟨_, messagePart, differs, _⟩ := fits_iff.mp fit
        exact ⟨⟨fun equal => absurd equal differs, fun unknown => by cases unknown⟩,
          fun _ => messagePart⟩
  | none =>
      cases own : textOf? inheritedProperties text with
      | some inherited =>
          have ⟨_, inheritedPart, differs, _⟩ := fits_iff.mp (fits_inherited own)
          have read : (HumanMessage.inherited text).toText = inherited := by
            rw [HumanMessage.toText, own]
            rfl
          simp only [Option.isSome_some, if_true, read]
          exact ⟨⟨fun equal => absurd equal differs, fun unknown => by cases unknown⟩,
            fun _ => inheritedPart⟩
      | none =>
          cases validated : humanizeValidationMessage text with
          | some translated =>
              have ⟨translatedPart, differs⟩ := sound_validation part validated
              exact ⟨⟨fun equal => absurd equal differs, fun unknown => by cases unknown⟩,
                fun _ => translatedPart⟩
          | none =>
              exact ⟨⟨fun _ => rfl, fun _ => rfl⟩, fun _ => part⟩

/-- Nothing is no message. -/
theorem isMessage_nil : isMessage [] = false := by
  have known : textOf? humanMessages [] = none := by
    cases found : textOf? humanMessages [] with
    | none =>
        rfl
    | some text =>
        rcases fits_message found with ⟨same, _⟩ | fit
        · have head := head?_invalidCharacters
          rw [← same] at head
          cases head
        · exact absurd (fits_iff.mp fit).1 (by decide)
  have own : textOf? inheritedProperties [] = none := by
    cases found : textOf? inheritedProperties [] with
    | none =>
        rfl
    | some text =>
        exact absurd (fits_iff.mp (fits_inherited found)).1 (by decide)
  rw [isMessage, known, own]
  rfl

/-! ## Parts of a message -/

theorem isPart_of_mem_splitMessageParts {input part : JsString}
    (listed : part ∈ splitMessageParts input) : isPart part = true := by
  have ⟨inside, long⟩ := List.mem_filter.mp listed
  obtain ⟨piece, cut, rfl⟩ := List.mem_map.mp inside
  have filled : piece.trim ≠ [] := by
    intro empty
    rw [empty] at long
    cases long
  have ⟨starts, ends⟩ := solid_trim filled
  have noComma : 0x2C ∉ piece.trim := fun member =>
    Ecma.notMem_of_mem_splitOn cut (mem_of_mem_trim member)
  exact isPart_iff.mpr ⟨starts, ends, noComma⟩

theorem splitMessageParts_of_isPart {text : JsString} (part : isPart text = true) :
    splitMessageParts text = [text] := by
  have ⟨trimmed, filled⟩ := trim_of_isPart part
  have ⟨_, _, noComma⟩ := isPart_iff.mp part
  rw [splitMessageParts, List.splitOn_eq_singleton noComma, List.map_singleton, trimmed,
    List.filter_cons_of_pos (by simpa using Nat.pos_of_ne_zero filled), List.filter_nil]

theorem humanizeMessage_of_isPart {text : JsString} (part : isPart text = true) :
    humanizeMessage text = (humanizeSingleMessage text).toText := by
  rw [humanizeMessage, splitMessageParts_of_isPart part]
  simp [joinMessages, List.eraseDups_cons]

/-! ## Joined messages -/

theorem isPart_joinMessages {messages : List HumanMessage} (filled : messages ≠ [])
    (parts : ∀ message ∈ messages, isPart message.toText = true) :
    isPart (joinMessages messages) = true := by
  induction messages with
  | nil =>
      exact absurd rfl filled
  | cons message rest inductionHypothesis =>
      have first := parts message List.mem_cons_self
      cases rest with
      | nil =>
          simpa [joinMessages] using first
      | cons next others =>
          have later := inductionHypothesis (List.cons_ne_nil _ _) fun other member =>
            parts other (List.mem_cons_of_mem _ member)
          have joined : joinMessages (message :: next :: others) =
              message.toText ++ ([0x20] ++ joinMessages (next :: others)) := by
            simp [joinMessages, List.intercalate_cons_cons]
          have ⟨starts, _, plain⟩ := isPart_iff.mp first
          have ⟨_, ends, laterPlain⟩ := isPart_iff.mp later
          rw [joined]
          exact isPart_iff.mpr ⟨startsSolid_append _ starts,
            endsSolid_append _ (endsSolid_append _ ends),
            notMem_append plain (notMem_append (by decide) laterPlain)⟩

theorem isPart_humanizeMessage {input : JsString} (filled : splitMessageParts input ≠ [])
    (free : ofString invalidCharacters ∉ splitMessageParts input) :
    isPart (humanizeMessage input) = true := by
  have some_part : (splitMessageParts input).length ≠ 0 := fun none =>
    filled (List.length_eq_zero_iff.mp none)
  rw [humanizeMessage, if_neg some_part]
  apply isPart_joinMessages
  · obtain ⟨part, listed⟩ := List.exists_mem_of_ne_nil _ filled
    exact List.ne_nil_of_mem (List.mem_eraseDups.mpr (List.mem_map_of_mem listed))
  · intro message member
    obtain ⟨part, listed, rfl⟩ := List.mem_map.mp (List.mem_eraseDups.mp member)
    exact (humanizeSingleMessage_part (isPart_of_mem_splitMessageParts listed)).2
      fun same => free (same ▸ listed)

/-! ## Texts without parts -/

/-- There are no parts where nothing stands but commas and white space. -/
theorem splitMessageParts_eq_nil_iff {input : JsString} :
    splitMessageParts input = [] ↔ ∀ unit ∈ input, unit = 0x2C ∨ isWhiteSpace unit = true := by
  have empties : splitMessageParts input = [] ↔
      ∀ piece ∈ input.splitOn 0x2C, trim piece = [] := by
    simp [splitMessageParts, List.filter_eq_nil_iff]
  rw [empties]
  constructor
  · intro blank unit member
    have whole : [0x2C].intercalate (input.splitOn 0x2C) = input :=
      List.intercalate_splitOn 0x2C
    rw [← whole] at member
    rcases Ecma.mem_of_mem_intercalate member with separator | ⟨piece, cut, inside⟩
    · exact .inl (List.mem_singleton.mp separator)
    · exact .inr (trim_eq_nil_iff.mp (blank piece cut) unit inside)
  · intro blank piece cut
    apply trim_eq_nil_iff.mpr
    intro unit member
    have inside := Ecma.mem_of_mem_splitOn cut member
    rcases blank unit inside with rfl | white
    · exact absurd member (Ecma.notMem_of_mem_splitOn cut)
    · exact white

/-! ## The translation with commas -/

theorem translatedCharacters_eq : ofString translatedCharacters =
    ofString "Nome contém caracteres inválidos. Usa apenas letras" ++ 0x2C ::
      (ofString " números" ++ 0x2C :: (ofString " espaço" ++ 0x2C :: ofString " _ ou -.")) := by
  decide +kernel

theorem humanizeSingleMessage_invalidCharacters :
    humanizeSingleMessage (ofString invalidCharacters) =
      .text (ofString translatedCharacters) := by
  have ⟨trimmed, filled⟩ := trim_of_isPart
    (show isPart (ofString invalidCharacters) = true from isPart_ofList (by decide))
  have translation : textOf? humanMessages (ofString invalidCharacters) =
      some (ofString translatedCharacters) := by
    cases found : textOf? humanMessages (ofString invalidCharacters) with
    | none =>
        have missing := List.find?_eq_none.mp (Option.map_eq_none_iff.mp found)
          (invalidCharacters, translatedCharacters)
          (by simp [humanMessages, invalidCharacters, translatedCharacters])
        exact absurd (decide_eq_true rfl) missing
    | some text =>
        rcases fits_message found with ⟨_, same⟩ | fit
        · rw [same]
        · exact absurd head?_invalidCharacters (fits_iff.mp fit).2.2.2
  rw [humanizeSingleMessage, trimmed, if_neg filled, translation]

/-- Induction over lists from which items are taken out behind the first one. -/
theorem filter_induction {α : Type} {motive : List α → Prop} (keeps : α → α → Bool)
    (nil : motive [])
    (cons : ∀ item rest, motive (rest.filter (keeps item)) → motive (item :: rest))
    (items : List α) : motive items := by
  have bounded : ∀ (size : Nat) (items : List α), items.length ≤ size → motive items := by
    intro size
    induction size with
    | zero =>
        intro items short
        rw [List.length_eq_zero_iff.mp (Nat.le_zero.mp short)]
        exact nil
    | succ size inductionHypothesis =>
        intro items short
        cases items with
        | nil =>
            exact nil
        | cons item rest =>
            have fewer := List.length_filter_le (keeps item) rest
            rw [List.length_cons] at short
            exact cons item rest (inductionHypothesis _ (by omega))
  exact bounded items.length items le_rfl

theorem nodup_eraseDups {α : Type} [DecidableEq α] (items : List α) : items.eraseDups.Nodup := by
  induction items using filter_induction (fun item other : α => !other == item) with
  | nil =>
      rw [List.eraseDups_nil]
      exact List.nodup_nil
  | cons item rest inductionHypothesis =>
      rw [List.eraseDups_cons]
      refine List.nodup_cons.mpr ⟨?_, inductionHypothesis⟩
      intro again
      have kept := (List.mem_filter.mp (List.mem_eraseDups.mp again)).2
      simp at kept

/-- One message among others which have no commas. -/
theorem exists_joinMessages_eq {before after : List HumanMessage} (message : HumanMessage)
    (parts : ∀ other ∈ before ++ after, 0x2C ∉ other.toText) :
    ∃ front back, joinMessages (before ++ message :: after) =
      front ++ (message.toText ++ back) ∧ 0x2C ∉ front ∧ 0x2C ∉ back := by
  induction before with
  | nil =>
      cases after with
      | nil =>
          exact ⟨[], [], by simp [joinMessages], List.not_mem_nil, List.not_mem_nil⟩
      | cons next others =>
          refine ⟨[], [0x20] ++ joinMessages (next :: others),
            by simp [joinMessages, List.intercalate_cons_cons], List.not_mem_nil, ?_⟩
          apply notMem_append (by decide)
          intro member
          rcases Ecma.mem_of_mem_intercalate member with blank | ⟨text, listed, inside⟩
          · exact absurd blank (by decide)
          · obtain ⟨other, among, rfl⟩ := List.mem_map.mp listed
            exact parts other among inside
  | cons first others inductionHypothesis =>
      obtain ⟨front, back, joined, frontPlain, backPlain⟩ := inductionHypothesis
        fun other member => parts other (List.mem_cons_of_mem _ member)
      have shape : joinMessages (first :: (others ++ message :: after)) =
          first.toText ++ ([0x20] ++ joinMessages (others ++ message :: after)) := by
        have filled : (others ++ message :: after).map HumanMessage.toText ≠ [] := by
          simp
        obtain ⟨text, texts, listed⟩ := List.exists_cons_of_ne_nil filled
        simp only [joinMessages, List.map_cons, listed, List.intercalate_cons_cons,
          List.append_assoc]
      refine ⟨first.toText ++ ([0x20] ++ front), back, ?_, ?_, backPlain⟩
      · rw [List.cons_append, shape, joined]
        simp
      · exact notMem_append (parts first List.mem_cons_self)
          (notMem_append (by decide) frontPlain)

/-- Where the translation stands, no part of the text is the message itself. -/
theorem notMem_splitMessageParts {front back : JsString} (frontPlain : 0x2C ∉ front)
    (backPlain : 0x2C ∉ back) :
    ofString invalidCharacters ∉
      splitMessageParts (front ++ (ofString translatedCharacters ++ back)) := by
  intro listed
  have shape : front ++ (ofString translatedCharacters ++ back) =
      (front ++ ofString "Nome contém caracteres inválidos. Usa apenas letras") ++
        0x2C :: (ofString " números" ++ 0x2C :: (ofString " espaço" ++
          0x2C :: (ofString " _ ou -." ++ back))) := by
    rw [translatedCharacters_eq]
    simp
  have cut : (front ++ (ofString translatedCharacters ++ back)).splitOn 0x2C =
      [front ++ ofString "Nome contém caracteres inválidos. Usa apenas letras",
        ofString " números", ofString " espaço", ofString " _ ou -." ++ back] := by
    rw [shape, List.splitOn_append_cons_self_of_not_mem (notMem_append frontPlain (by decide)),
      List.splitOn_append_cons_self_of_not_mem (by decide),
      List.splitOn_append_cons_self_of_not_mem (by decide),
      List.splitOn_eq_singleton (notMem_append (by decide) backPlain)]
  obtain ⟨piece, member, trimmed⟩ := List.mem_map.mp (List.mem_filter.mp listed).1
  rw [cut] at member
  -- each piece holds a sign which the message does not have
  have foreign : ∀ unit ∈ ofString ".úç_", unit ∈ piece → False := by
    intro unit sign inside
    have signs : ((ofString ".úç_").all fun unit => !isWhiteSpace unit &&
        !(ofString invalidCharacters).contains unit) = true := by
      decide
    have plain := List.all_eq_true.mp signs unit sign
    rw [Bool.and_eq_true, Bool.not_eq_true', Bool.not_eq_true'] at plain
    have kept := mem_trim_of_solid inside plain.1
    rw [trimmed, ← List.contains_iff_mem, plain.2] at kept
    cases kept
  simp only [List.mem_cons, List.not_mem_nil, or_false] at member
  rcases member with rfl | rfl | rfl | rfl
  · exact foreign 0x2E (by decide) (List.mem_append_right _ (by decide))
  · exact foreign 0xFA (by decide) (by decide)
  · exact foreign 0xE7 (by decide) (by decide)
  · exact foreign 0x2E (by decide) (List.mem_append_left _ (by decide))

/-- What the parts of a message say, one after the other. -/
def spoken (input : JsString) : JsString :=
  joinMessages ((splitMessageParts input).map humanizeSingleMessage).eraseDups

theorem humanizeMessage_of_parts {input : JsString} (filled : splitMessageParts input ≠ []) :
    humanizeMessage input = spoken input := by
  have some_part : (splitMessageParts input).length ≠ 0 := fun none =>
    filled (List.length_eq_zero_iff.mp none)
  rw [humanizeMessage, if_neg some_part]
  rfl

/-- The message with commas stands once among texts without any. -/
theorem exists_spoken_eq {input : JsString}
    (listed : ofString invalidCharacters ∈ splitMessageParts input) :
    ∃ front back, spoken input = front ++ (ofString translatedCharacters ++ back) ∧
      0x2C ∉ front ∧ 0x2C ∉ back := by
  have member : HumanMessage.text (ofString translatedCharacters) ∈
      ((splitMessageParts input).map humanizeSingleMessage).eraseDups :=
    List.mem_eraseDups.mpr (List.mem_map.mpr
      ⟨_, listed, humanizeSingleMessage_invalidCharacters⟩)
  obtain ⟨before, after, divided⟩ := List.append_of_mem member
  have once := nodup_eraseDups ((splitMessageParts input).map humanizeSingleMessage)
  rw [divided] at once
  have others : ∀ other ∈ before ++ after, 0x2C ∉ other.toText := by
    intro other among
    have differs : other ≠ .text (ofString translatedCharacters) := by
      rintro rfl
      exact (List.nodup_middle.mp once).notMem among
    have inAll : other ∈ ((splitMessageParts input).map humanizeSingleMessage).eraseDups := by
      rw [divided]
      rcases List.mem_append.mp among with first | second
      · exact List.mem_append_left _ first
      · exact List.mem_append_right _ (List.mem_cons_of_mem _ second)
    obtain ⟨part, own, rfl⟩ := List.mem_map.mp (List.mem_eraseDups.mp inAll)
    have isText := (humanizeSingleMessage_part (isPart_of_mem_splitMessageParts own)).2
    refine (isPart_iff.mp (isText ?_)).2.2
    rintro rfl
    exact differs humanizeSingleMessage_invalidCharacters
  rw [spoken, divided]
  exact exists_joinMessages_eq (.text (ofString translatedCharacters)) others

/-- The message with commas makes a text with commas, which the second pass takes out. -/
theorem humanizeMessage_loses_commas {input : JsString}
    (listed : ofString invalidCharacters ∈ splitMessageParts input) :
    humanizeMessage (humanizeMessage input) ≠ humanizeMessage input := by
  obtain ⟨front, back, shape, frontPlain, backPlain⟩ := exists_spoken_eq listed
  rw [humanizeMessage_of_parts (List.ne_nil_of_mem listed), shape]
  have within : ∀ unit ∈ ofString translatedCharacters,
      unit ∈ front ++ (ofString translatedCharacters ++ back) := fun unit member =>
    List.mem_append_right _ (List.mem_append_left _ member)
  have some_part : splitMessageParts (front ++ (ofString translatedCharacters ++ back)) ≠ [] := by
    intro none
    have stop := splitMessageParts_eq_nil_iff.mp none 0x2E (within 0x2E (by decide +kernel))
    exact absurd stop (by decide)
  have part := isPart_humanizeMessage some_part (notMem_splitMessageParts frontPlain backPlain)
  intro same
  rw [same] at part
  exact (isPart_iff.mp part).2.2 (within 0x2C (by decide +kernel))

theorem humanizeMessage_trim {input : JsString} (none : splitMessageParts input = []) :
    humanizeMessage input.trim = input.trim := by
  have trimmed : splitMessageParts input.trim = [] := by
    apply splitMessageParts_eq_nil_iff.mpr
    intro unit member
    exact splitMessageParts_eq_nil_iff.mp none unit (mem_of_mem_trim member)
  rw [humanizeMessage, trimmed]
  by_cases empty : input.trim = []
  · rw [empty]
    rfl
  · have ⟨starts, ends⟩ := solid_trim empty
    exact trim_of_solid starts ends

/-- The second pass leaves a translated message alone exactly if no part is the one whose
translation has commas, and the translated parts are together no message. -/
theorem humanizeMessage_twice_spoken (input : JsString) :
    humanizeMessage (humanizeMessage input) = humanizeMessage input ↔
      ofString invalidCharacters ∉ splitMessageParts input ∧
        isMessage (spoken input) = false := by
  by_cases filled : splitMessageParts input = []
  · have once : humanizeMessage input = input.trim := by
      rw [humanizeMessage, filled]
      rfl
    have silent : spoken input = [] := by
      rw [spoken, filled]
      rfl
    rw [once, humanizeMessage_trim filled, filled, silent]
    exact ⟨fun _ => ⟨List.not_mem_nil, isMessage_nil⟩, fun _ => rfl⟩
  · by_cases listed : ofString invalidCharacters ∈ splitMessageParts input
    · constructor
      · intro same
        exact absurd same (humanizeMessage_loses_commas listed)
      · intro holds
        exact absurd listed holds.1
    · have part := isPart_humanizeMessage filled listed
      rw [humanizeMessage_of_parts filled] at part ⊢
      rw [humanizeMessage_of_isPart part, (humanizeSingleMessage_part part).1]
      constructor
      · intro silent
        exact ⟨listed, silent⟩
      · intro holds
        exact holds.2

end Tchuno.Web
