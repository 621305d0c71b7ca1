import Mathlib.Data.List.DropRight
import Tchuno.Library.CodeUnits

/-!
# Phrases in messages

What a regular expression without regard to case finds: phrases at the beginning, at the
end or within a message, and what stands around them.
-/

namespace Tchuno.Library.JsString

/-! ## Matching -/

/-- ASCII letters in lower case; no other unit becomes one. -/
def foldCase (unit : UInt16) : UInt16 :=
  if 0x41 ≤ unit && unit ≤ 0x5A then unit + 0x20 else unit

def sameIgnoringCase (left right : JsString) : Bool :=
  left.map foldCase = right.map foldCase

def isLineTerminator (unit : UInt16) : Bool :=
  [0x0A, 0x0D, 0x2028, 0x2029].contains unit

/-- `.+` -/
def isLine (text : JsString) : Bool :=
  text ≠ [] && text.all fun unit => !isLineTerminator unit

/-- What follows a phrase at the beginning. -/
def afterPhrase? (phrase text : JsString) : Option JsString :=
  if sameIgnoringCase (text.take phrase.length) phrase then some (text.drop phrase.length)
  else none

/-- What precedes a phrase at the end. -/
def beforePhrase? (phrase text : JsString) : Option JsString :=
  let size := text.length - phrase.length
  if sameIgnoringCase (text.drop size) phrase then some (text.take size) else none

/-- The text up to the units of a kind with which it ends, and these units. -/
def splitRun (kind : UInt16 → Bool) (text : JsString) : JsString × JsString :=
  (text.rdropWhile kind, text.rtakeWhile kind)

/-- The lines around a phrase, at the last place where there are two. -/
def splitAtPhrase? (phrase text : JsString) : Option (JsString × JsString) :=
  (List.range (text.length + 1)).reverse.findSome? fun size =>
    match afterPhrase? phrase (text.drop size) with
    | some back =>
        if isLine (text.take size) && isLine back then some (text.take size, back) else none
    | none => none

/-! ## What was matched -/

theorem eq_of_afterPhrase? {phrase text back : JsString}
    (found : afterPhrase? phrase text = some back) :
    ∃ front, text = front ++ back ∧ sameIgnoringCase front phrase = true := by
  unfold afterPhrase? at found
  split at found
  · rename_i same
    obtain rfl := Option.some.inj found
    exact ⟨_, (List.take_append_drop _ _).symm, same⟩
  · cases found

theorem eq_of_beforePhrase? {phrase text front : JsString}
    (found : beforePhrase? phrase text = some front) :
    ∃ back, text = front ++ back ∧ sameIgnoringCase back phrase = true := by
  unfold beforePhrase? at found
  dsimp only at found
  split at found
  · rename_i same
    obtain rfl := Option.some.inj found
    exact ⟨_, (List.take_append_drop _ _).symm, same⟩
  · cases found

theorem eq_of_splitAtPhrase? {phrase text front back : JsString}
    (found : splitAtPhrase? phrase text = some (front, back)) :
    ∃ middle, text = front ++ (middle ++ back) ∧ sameIgnoringCase middle phrase = true ∧
      isLine front = true ∧ isLine back = true := by
  obtain ⟨size, _, accepted⟩ := List.exists_of_findSome?_eq_some found
  split at accepted
  · rename_i rest matched
    obtain ⟨middle, shape, same⟩ := eq_of_afterPhrase? matched
    split at accepted
    · rename_i lines
      have ⟨frontLine, backLine⟩ := Bool.and_eq_true _ _ ▸ lines
      obtain ⟨rfl, rfl⟩ := Prod.mk.inj (Option.some.inj accepted)
      refine ⟨middle, ?_, same, frontLine, backLine⟩
      rw [← shape, List.take_append_drop]
    · cases accepted
  · cases accepted

/-- Texts which differ in case only have the same length. -/
theorem length_of_same {left right : JsString} (same : sameIgnoringCase left right = true) :
    left.length = right.length := by
  have lengths := congrArg List.length (of_decide_eq_true same)
  rwa [List.length_map, List.length_map] at lengths

theorem afterPhrase?_append {phrase front : JsString} (back : JsString)
    (same : sameIgnoringCase front phrase = true) :
    afterPhrase? phrase (front ++ back) = some back := by
  have size := length_of_same same
  rw [afterPhrase?, ← size, List.take_left, List.drop_left, if_pos same]

theorem beforePhrase?_append {phrase back : JsString} (front : JsString)
    (same : sameIgnoringCase back phrase = true) :
    beforePhrase? phrase (front ++ back) = some front := by
  have size : (front ++ back).length - phrase.length = front.length := by
    rw [List.length_append, length_of_same same, Nat.add_sub_cancel]
  rw [beforePhrase?, size, List.take_left, List.drop_left, if_pos same]

/-- There is a phrase between two lines. -/
theorem isSome_splitAtPhrase?_iff {phrase text : JsString} :
    (splitAtPhrase? phrase text).isSome = true ↔
      ∃ front middle back, text = front ++ (middle ++ back) ∧ isLine front = true ∧
        sameIgnoringCase middle phrase = true ∧ isLine back = true := by
  constructor
  · intro found
    obtain ⟨⟨front, back⟩, taken⟩ := Option.isSome_iff_exists.mp found
    obtain ⟨middle, shape, same, frontLine, backLine⟩ := eq_of_splitAtPhrase? taken
    exact ⟨front, middle, back, shape, frontLine, same, backLine⟩
  · rintro ⟨front, middle, back, rfl, frontLine, same, backLine⟩
    apply List.findSome?_isSome_iff.mpr
    have short : front.length < (front ++ (middle ++ back)).length + 1 := by
      rw [List.length_append]
      omega
    refine ⟨front.length, List.mem_reverse.mpr (List.mem_range.mpr short), ?_⟩
    rw [List.drop_left, List.take_left, afterPhrase?_append back same]
    simp [frontLine, backLine]

theorem splitRun_append (kind : UInt16 → Bool) (text : JsString) :
    (splitRun kind text).1 ++ (splitRun kind text).2 = text := by
  unfold splitRun List.rdropWhile List.rtakeWhile
  dsimp only
  rw [← List.reverse_append, List.takeWhile_append_dropWhile, List.reverse_reverse]

/-- Texts which differ in case only end alike. -/
theorem getLast?_of_sameIgnoringCase {left right : JsString}
    (same : sameIgnoringCase left right = true) :
    left.getLast?.map foldCase = right.getLast?.map foldCase := by
  have mapped := congrArg List.getLast? (of_decide_eq_true same)
  rwa [List.getLast?_map, List.getLast?_map] at mapped

theorem ne_nil_of_isLine {text : JsString} (line : isLine text = true) : text ≠ [] := by
  intro empty
  rw [empty] at line
  cases line

/-! ## Ends of texts -/

/-- The text begins with a unit which is not white space. -/
def startsSolid (text : JsString) : Bool :=
  text.head?.any fun unit => !isWhiteSpace unit

def endsSolid (text : JsString) : Bool :=
  text.getLast?.any fun unit => !isWhiteSpace unit

theorem startsSolid_append {left : JsString} (right : JsString)
    (solid : startsSolid left = true) : startsSolid (left ++ right) = true := by
  cases left with
  | nil =>
      cases solid
  | cons unit rest =>
      exact solid

theorem endsSolid_append (left : JsString) {right : JsString}
    (solid : endsSolid right = true) : endsSolid (left ++ right) = true := by
  have filled : right ≠ [] := by
    rintro rfl
    cases solid
  unfold endsSolid at solid ⊢
  rw [List.getLast?_append_of_ne_nil _ filled]
  exact solid

/-- The beginning of a text begins like it. -/
theorem startsSolid_of_append {left right : JsString} (filled : left ≠ [])
    (solid : startsSolid (left ++ right) = true) : startsSolid left = true := by
  cases left with
  | nil =>
      exact absurd rfl filled
  | cons unit rest =>
      exact solid

theorem endsSolid_of_append {left right : JsString} (filled : right ≠ [])
    (solid : endsSolid (left ++ right) = true) : endsSolid right = true := by
  unfold endsSolid at solid ⊢
  rwa [List.getLast?_append_of_ne_nil _ filled] at solid

theorem trim_of_solid {text : JsString} (starts : startsSolid text = true)
    (ends : endsSolid text = true) : text.trim = text := by
  have front : text.dropWhile isWhiteSpace = text := by
    cases text with
    | nil =>
        rfl
    | cons unit rest =>
        have solid : isWhiteSpace unit = false := by
          simpa [startsSolid] using starts
        rw [List.dropWhile_cons, solid]
        rfl
  have back : text.reverse.dropWhile isWhiteSpace = text.reverse := by
    cases reversed : text.reverse with
    | nil =>
        rfl
    | cons unit rest =>
        have last : text.getLast? = some unit := by
          rw [← List.head?_reverse, reversed]
          rfl
        have solid : isWhiteSpace unit = false := by
          simpa [endsSolid, last] using ends
        rw [List.dropWhile_cons, solid]
        rfl
  rw [trim, front, trimEnd, back, List.reverse_reverse]

/-- What is left of a text without the white space around it. -/
theorem solid_trim {text : JsString} (filled : text.trim ≠ []) :
    startsSolid text.trim = true ∧ endsSolid text.trim = true := by
  have ends : endsSolid text.trim = true := by
    unfold endsSolid trim trimEnd at *
    rw [List.getLast?_reverse]
    have some_unit : (text.dropWhile isWhiteSpace).reverse.dropWhile isWhiteSpace ≠ [] := by
      intro empty
      rw [empty] at filled
      exact filled rfl
    have first := List.head?_dropWhile_not isWhiteSpace (text.dropWhile isWhiteSpace).reverse
    cases dropped : (text.dropWhile isWhiteSpace).reverse.dropWhile isWhiteSpace with
    | nil =>
        exact absurd dropped some_unit
    | cons unit rest =>
        rw [dropped] at first
        simpa using first
  refine ⟨?_, ends⟩
  have isPrefix : text.trim <+: text.dropWhile isWhiteSpace :=
    List.rdropWhile_prefix isWhiteSpace _
  obtain ⟨cut, shape⟩ := isPrefix
  apply @startsSolid_of_append _ cut filled
  rw [shape]
  have first := List.head?_dropWhile_not isWhiteSpace text
  cases dropped : text.dropWhile isWhiteSpace with
  | nil =>
      rw [dropped] at shape
      exact absurd (List.append_eq_nil_iff.mp shape).1 filled
  | cons unit rest =>
      rw [dropped] at first
      simpa [startsSolid] using first

end Tchuno.Library.JsString
