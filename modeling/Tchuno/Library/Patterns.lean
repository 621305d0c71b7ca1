import Mathlib.Data.List.Infix
import Tchuno.Library.Phrases

/-!
# Patterns without regard to case

Regular expressions whose groups lie between phrases, and texts which share their own words
and differ in the foreign ones between them.  Where no phrase can overlap with foreign words,
a pattern reads both texts or neither.
-/

namespace Tchuno.Library.JsString

/-! ## Patterns -/

/-- What stands before a phrase, or at the end. -/
inductive Gap where
  | nothing
  | line
  | run (kind : UInt16 → Bool)

def Gap.Holds (text : JsString) : Gap → Prop
  | .nothing => text = []
  | .line => isLine text = true
  | .run kind => text ≠ [] ∧ ∀ unit ∈ text, kind unit = true

inductive Pattern where
  | last (gap : Gap)
  | upTo (gap : Gap) (phrase : JsString) (rest : Pattern)

namespace Pattern

/-- The text can be divided as the pattern says. -/
def Reads : Pattern → JsString → Prop
  | .last gap, text => gap.Holds text
  | .upTo gap phrase rest, text => ∃ front middle back, text = front ++ (middle ++ back) ∧
      gap.Holds front ∧ sameIgnoringCase middle phrase = true ∧ rest.Reads back

def phrases : Pattern → List JsString
  | .last _ => []
  | .upTo _ phrase rest => phrase :: rest.phrases

def gaps : Pattern → List Gap
  | .last gap => [gap]
  | .upTo gap _ rest => gap :: rest.gaps

end Pattern

/-! ## Texts without regard to case -/

section Same

variable {left right phrase : JsString}

/-- A text is divided where the phrase is which it follows. -/
theorem same_of_append (same : sameIgnoringCase (left ++ right) phrase = true) :
    ∃ first second, phrase = first ++ second ∧ sameIgnoringCase left first = true ∧
      sameIgnoringCase right second = true := by
  have mapped := of_decide_eq_true same
  rw [List.map_append] at mapped
  obtain ⟨first, second, rfl, leftSame, rightSame⟩ := List.map_eq_append_iff.mp mapped.symm
  exact ⟨first, second, rfl, decide_eq_true leftSame.symm, decide_eq_true rightSame.symm⟩

/-- The units in lower case, as numbers. -/
def codes (text : JsString) : List Nat :=
  text.map fun unit => (foldCase unit).toNat

/-- As far as both reach, the lists are the same. -/
def agree : List Nat → List Nat → Bool
  | first :: left, second :: right => Nat.beq first second && agree left right
  | _, _ => true

theorem codes_eq_of_same (same : sameIgnoringCase left right = true) :
    codes left = codes right := by
  have folded := congrArg (List.map UInt16.toNat) (of_decide_eq_true same)
  rwa [List.map_map, List.map_map] at folded

/-- Two beginnings of one text agree. -/
theorem agree_of_append {leftRest rightRest : JsString}
    (shape : left ++ leftRest = right ++ rightRest) : agree (codes left) (codes right) = true := by
  induction left generalizing right with
  | nil =>
      rfl
  | cons unit rest inductionHypothesis =>
      cases right with
      | nil =>
          rfl
      | cons other others =>
          obtain ⟨rfl, tail⟩ := List.cons.inj shape
          have agreed := inductionHypothesis tail
          rw [codes, codes, List.map_cons, List.map_cons, agree, Nat.beq_refl, Bool.true_and]
          exact agreed

end Same

/-! ## Texts by their characters -/

section Spelled

variable {texts : List String} {spelling : List (List Char)}

/-- A check of many texts is made on their characters. -/
abbrev Spelled (texts : List String) (spelling : List (List Char)) : Prop :=
  List.Forall₂ (fun text chars => text = String.ofList chars) texts spelling

theorem Spelled.cons {chars : List Char} (rest : Spelled texts spelling) :
    Spelled (String.ofList chars :: texts) (chars :: spelling) :=
  List.Forall₂.cons rfl rest

theorem ofString_of_spelled (spelled : Spelled texts spelling) :
    texts.map ofString = spelling.map fun chars => chars.flatMap ofChar := by
  induction spelled with
  | nil =>
      rfl
  | cons same rest inductionHypothesis =>
      rw [List.map_cons, List.map_cons, inductionHypothesis, same, ofString, String.toList_ofList]

theorem forall_of_spelled {check : JsString → Bool} (spelled : Spelled texts spelling)
    (checked : (spelling.all fun chars => check (chars.flatMap ofChar)) = true) :
    ∀ text ∈ texts, check (ofString text) = true := by
  intro text listed
  have member : ofString text ∈ texts.map ofString := List.mem_map_of_mem listed
  rw [ofString_of_spelled spelled] at member
  obtain ⟨chars, spelt, same⟩ := List.mem_map.mp member
  rw [← same]
  exact List.all_eq_true.mp checked chars spelt

end Spelled

/-! ## Foreign words -/

/-- The phrase overlaps with the foreign words neither from the own words before them nor from
within. -/
structure Apart (phrase own foreign : JsString) : Prop where
  before : ∀ first second, phrase = first ++ second → second ≠ [] →
    ∀ front back, own = front ++ back → sameIgnoringCase back first = true →
      agree (codes second) (codes foreign) = false
  within : ∀ front back, foreign = front ++ back → back ≠ [] →
    agree (codes phrase) (codes back) = false

/-- What follows the blanks in a list of codes. -/
def afterBlanks : List Nat → List (List Nat)
  | [] => []
  | code :: rest => if Nat.beq code 0x20 then rest :: afterBlanks rest else afterBlanks rest

/-- The first units of the phrases, which are few. -/
def beginnings (phrases : List JsString) : List (List Nat) :=
  (phrases.map fun phrase => (codes phrase).take 9).eraseDups

/-- Words which begin and end with no white space, are not of the kind that runs are of, and
cannot overlap with a phrase, at least where they follow a blank. -/
def isForeign (phrases : List JsString) (kind : UInt16 → Bool) (anywhere : Bool)
    (foreign : JsString) : Bool :=
  startsSolid foreign && endsSolid foreign &&
    foreign.all (fun unit => !isLineTerminator unit) && foreign.any (fun unit => !kind unit) &&
    ((codes foreign).tails.all fun rest =>
      rest.isEmpty || (beginnings phrases).all fun beginning => !agree beginning rest) &&
    phrases.all fun phrase =>
      (if anywhere then (codes phrase).tails
        else codes phrase :: afterBlanks (codes phrase)).all fun rest =>
          rest.isEmpty || !agree rest (codes foreign)

/-- Foreign words behind own words: after a blank, or of a sort that may stand anywhere. -/
def Stands (phrases : List JsString) (kind : UInt16 → Bool) (own foreign : JsString) : Prop :=
  isForeign phrases kind true foreign = true ∨
    isForeign phrases kind false foreign = true ∧ (own = [] ∨ own.getLast? = some 0x20)

/-- The texts have the same own words, with foreign ones between them. -/
inductive Alike (phrases : List JsString) (kind : UInt16 → Bool) : JsString → JsString → Prop
  | own (text : JsString) : Alike phrases kind text text
  | beside {own left right leftRest rightRest : JsString}
      (isLeft : Stands phrases kind own left) (isRight : Stands phrases kind own right)
      (rest : Alike phrases kind leftRest rightRest) :
      Alike phrases kind (own ++ (left ++ leftRest)) (own ++ (right ++ rightRest))

section Foreign

variable {phrases : List JsString} {kind : UInt16 → Bool} {own foreign : JsString}

theorem Stands.suffix {front : JsString} (stands : Stands phrases kind (front ++ own) foreign) :
    Stands phrases kind own foreign := by
  refine stands.imp_right fun ⟨checked, spaced⟩ => ⟨checked, ?_⟩
  by_cases empty : own = []
  · exact .inl empty
  · rcases spaced with none | blank
    · exact .inl (List.append_eq_nil_iff.mp none).2
    · rw [List.getLast?_append_of_ne_nil _ empty] at blank
      exact .inr blank

theorem Stands.spaced (text : JsString) (stands : Stands phrases kind own foreign) :
    Stands phrases kind (text ++ 0x20 :: own) foreign := by
  refine stands.imp_right fun ⟨checked, spaced⟩ => ⟨checked, .inr ?_⟩
  rw [List.getLast?_append_of_ne_nil _ (List.cons_ne_nil _ _)]
  rcases spaced with rfl | blank
  · rfl
  · rw [List.getLast?_cons, blank]
    rfl

theorem Stands.checked (stands : Stands phrases kind own foreign) :
    ∃ anywhere, isForeign phrases kind anywhere foreign = true ∧
      (anywhere = true ∨ own = [] ∨ own.getLast? = some 0x20) := by
  rcases stands with checked | ⟨checked, spaced⟩
  · exact ⟨true, checked, .inl rfl⟩
  · exact ⟨false, checked, .inr spaced⟩

theorem Stands.solid (stands : Stands phrases kind own foreign) :
    startsSolid foreign = true ∧ endsSolid foreign = true ∧
      (∀ unit ∈ foreign, isLineTerminator unit = false) ∧ ∃ unit ∈ foreign, kind unit = false := by
  obtain ⟨anywhere, checked, _⟩ := stands.checked
  simp only [isForeign, Bool.and_eq_true, List.all_eq_true, List.any_eq_true,
    Bool.not_eq_true'] at checked
  obtain ⟨⟨⟨⟨⟨starts, ends⟩, lines⟩, other⟩, _⟩, _⟩ := checked
  exact ⟨starts, ends, lines, other⟩

theorem Stands.ne_nil (stands : Stands phrases kind own foreign) : foreign ≠ [] := by
  rintro rfl
  cases stands.solid.1

theorem mem_afterBlanks (first second : List Nat) :
    second ∈ afterBlanks (first ++ 0x20 :: second) := by
  induction first with
  | nil =>
      exact List.mem_cons_self
  | cons code rest inductionHypothesis =>
      rw [List.cons_append, afterBlanks]
      split
      · exact List.mem_cons_of_mem _ inductionHypothesis
      · exact inductionHypothesis

/-- What remains of a phrase whose beginning the own words end with is one of the ends which were
checked. -/
theorem Stands.checked_end {phrase first second : JsString} {anywhere : Bool}
    (spaced : anywhere = true ∨ own = [] ∨ own.getLast? = some 0x20)
    (shape : phrase = first ++ second) {front back : JsString} (ownShape : own = front ++ back)
    (same : sameIgnoringCase back first = true) :
    codes second ∈ if anywhere then (codes phrase).tails
      else codes phrase :: afterBlanks (codes phrase) := by
  have divided : codes phrase = codes first ++ codes second := by
    rw [shape, codes, List.map_append]
    rfl
  by_cases always : anywhere = true
  · rw [if_pos always]
    exact (List.mem_tails _ _).mpr ⟨codes first, divided.symm⟩
  · rw [if_neg always]
    by_cases empty : back = []
    · have size := length_of_same same
      rw [empty] at size
      have none : first = [] := List.length_eq_zero_iff.mp size.symm
      rw [shape, none]
      exact List.mem_cons_self
    · have blank : back.getLast? = some 0x20 := by
        rcases spaced with somewhere | none | blank
        · exact absurd somewhere always
        · rw [ownShape] at none
          exact absurd (List.append_eq_nil_iff.mp none).2 empty
        · rwa [ownShape, List.getLast?_append_of_ne_nil _ empty] at blank
      obtain ⟨before, ends⟩ := List.getLast?_eq_some_iff.mp blank
      have firstCodes : codes first = codes before ++ [0x20] := by
        rw [← codes_eq_of_same same, ends, codes, List.map_append]
        rfl
      rw [divided, firstCodes, List.append_assoc]
      exact List.mem_cons_of_mem _ (mem_afterBlanks _ _)

/-- Where a phrase agrees, its beginning does. -/
theorem agree_take (count : Nat) {left right : List Nat} (agreed : agree left right = true) :
    agree (left.take count) right = true := by
  induction count generalizing left right with
  | zero =>
      rfl
  | succ count inductionHypothesis =>
      cases left with
      | nil =>
          rfl
      | cons first left =>
          cases right with
          | nil =>
              rfl
          | cons second right =>
              obtain ⟨same, rest⟩ := Bool.and_eq_true_iff.mp agreed
              exact Bool.and_eq_true_iff.mpr ⟨same, inductionHypothesis rest⟩

theorem Stands.apart (stands : Stands phrases kind own foreign) {phrase : JsString}
    (listed : phrase ∈ phrases) : Apart phrase own foreign := by
  obtain ⟨anywhere, checked, spaced⟩ := stands.checked
  simp only [isForeign, Bool.and_eq_true] at checked
  obtain ⟨⟨_, within⟩, before⟩ := checked
  have nonempty : ∀ text : JsString, text ≠ [] → (codes text).isEmpty = false := by
    intro text filled
    cases text with
    | nil =>
        exact absurd rfl filled
    | cons unit rest =>
        rfl
  constructor
  · intro first second shape filled front back ownShape same
    have found := List.all_eq_true.mp (List.all_eq_true.mp before phrase listed) _
      (Stands.checked_end spaced shape ownShape same)
    simpa [nonempty second filled] using found
  · intro front back shape filled
    have tail : codes back ∈ (codes foreign).tails :=
      (List.mem_tails _ _).mpr ⟨codes front, by rw [shape, codes, codes, codes, List.map_append]⟩
    have found := List.all_eq_true.mp within _ tail
    rw [nonempty back filled, Bool.false_or] at found
    have begins : (codes phrase).take 9 ∈ beginnings phrases :=
      List.mem_eraseDups.mpr (List.mem_map_of_mem listed)
    have differs := List.all_eq_true.mp found _ begins
    by_contra agreed
    rw [agree_take 9 (Bool.not_eq_false _ |>.mp agreed)] at differs
    cases differs

end Foreign

/-! ## Texts alike -/

namespace Alike

variable {phrases : List JsString} {kind : UInt16 → Bool} {left right : JsString}

theorem symm (alike : Alike phrases kind left right) : Alike phrases kind right left := by
  induction alike with
  | own text =>
      exact .own text
  | beside isLeft isRight rest inductionHypothesis =>
      exact .beside isRight isLeft inductionHypothesis

theorem eq_nil (alike : Alike phrases kind left right) (empty : left = []) : right = [] := by
  cases alike with
  | own =>
      exact empty
  | beside isLeft isRight rest =>
      obtain ⟨_, inner⟩ := List.append_eq_nil_iff.mp empty
      exact absurd (List.append_eq_nil_iff.mp inner).1 isLeft.ne_nil

theorem ne_nil (alike : Alike phrases kind left right) (filled : left ≠ []) : right ≠ [] :=
  fun empty => filled (alike.symm.eq_nil empty)

theorem lines (alike : Alike phrases kind left right)
    (plain : ∀ unit ∈ left, isLineTerminator unit = false) :
    ∀ unit ∈ right, isLineTerminator unit = false := by
  induction alike with
  | own =>
      exact plain
  | beside isLeft isRight rest inductionHypothesis =>
      intro unit member
      rcases List.mem_append.mp member with own | later
      · exact plain unit (List.mem_append_left _ own)
      · rcases List.mem_append.mp later with foreign | after
        · exact isRight.solid.2.2.1 unit foreign
        · refine inductionHypothesis (fun other inside => plain other ?_) unit after
          exact List.mem_append_right _ (List.mem_append_right _ inside)

theorem isLine (alike : Alike phrases kind left right) (line : isLine left = true) :
    JsString.isLine right = true := by
  rw [JsString.isLine, Bool.and_eq_true, decide_eq_true_eq, List.all_eq_true] at line ⊢
  refine ⟨alike.ne_nil line.1, fun unit member => ?_⟩
  have plain := alike.lines (fun other inside => by simpa using line.2 other inside)
  simp [plain unit member]

theorem eq_of_run (alike : Alike phrases kind left right)
    (all : ∀ unit ∈ left, kind unit = true) : left = right := by
  cases alike with
  | own =>
      rfl
  | beside isLeft isRight rest =>
      obtain ⟨unit, member, other⟩ := isLeft.solid.2.2.2
      have same := all unit (List.mem_append_right _ (List.mem_append_left _ member))
      rw [other] at same
      cases same

theorem startsSolid (alike : Alike phrases kind left right)
    (starts : JsString.startsSolid left = true) : JsString.startsSolid right = true := by
  cases alike with
  | own =>
      exact starts
  | @beside own left right leftRest rightRest isLeft isRight rest =>
      by_cases empty : own = []
      · subst empty
        exact startsSolid_append rightRest isRight.solid.1
      · exact startsSolid_append _ (startsSolid_of_append empty starts)

theorem endsSolid (alike : Alike phrases kind left right)
    (ends : JsString.endsSolid left = true) : JsString.endsSolid right = true := by
  induction alike with
  | own =>
      exact ends
  | @beside own left right leftRest rightRest isLeft isRight rest inductionHypothesis =>
      by_cases empty : leftRest = []
      · rw [rest.eq_nil empty, List.append_nil]
        exact endsSolid_append _ isRight.solid.2.1
      · rw [← List.append_assoc] at ends ⊢
        exact endsSolid_append _ (inductionHypothesis (endsSolid_of_append empty ends))

/-- A phrase lies in the own words, so that it stands in the other text as well. -/
theorem occurrence (alike : Alike phrases kind left right) {phrase : JsString}
    (listed : phrase ∈ phrases) {front middle back : JsString}
    (shape : left = front ++ (middle ++ back)) (same : sameIgnoringCase middle phrase = true) :
    ∃ otherFront otherBack, right = otherFront ++ (middle ++ otherBack) ∧
      Alike phrases kind front otherFront ∧ Alike phrases kind back otherBack := by
  induction alike generalizing front with
  | own text =>
      exact ⟨front, back, shape, .own front, .own back⟩
  | @beside own left right leftRest rightRest isLeft isRight rest inductionHypothesis =>
      -- the phrase in what follows the foreign words
      have later : ∀ more, leftRest = more ++ (middle ++ back) →
          ∃ otherFront otherBack, own ++ (right ++ rightRest) =
              otherFront ++ (middle ++ otherBack) ∧
            Alike phrases kind (own ++ (left ++ more)) otherFront ∧
              Alike phrases kind back otherBack := by
        intro more restShape
        obtain ⟨otherFront, otherBack, rfl, fronts, backs⟩ := inductionHypothesis restShape
        exact ⟨own ++ (right ++ otherFront), otherBack, by simp,
          .beside isLeft isRight fronts, backs⟩
      -- the phrase in the own words
      have within : ∀ more, own = front ++ (middle ++ more) → back = more ++ (left ++ leftRest) →
          ∃ otherFront otherBack, own ++ (right ++ rightRest) =
              otherFront ++ (middle ++ otherBack) ∧
            Alike phrases kind front otherFront ∧ Alike phrases kind back otherBack := by
        rintro more rfl rfl
        rw [← List.append_assoc] at isLeft isRight
        exact ⟨front, more ++ (right ++ rightRest), by simp, .own front,
          .beside isLeft.suffix isRight.suffix rest⟩
      rcases List.append_eq_append_iff.mp shape with ⟨gone, rfl, cut⟩ | ⟨gone, rfl, cut⟩
      · rcases List.append_eq_append_iff.mp cut with
          ⟨more, rfl, restShape⟩ | ⟨excess, rfl, excess_eq⟩
        · exact later more restShape
        · by_cases none : excess = []
          · subst none
            have found := later [] (by simpa using excess_eq.symm)
            simpa using found
          · have agreed := agree_of_append excess_eq
            rw [codes_eq_of_same same, (isLeft.apart listed).within gone excess rfl none] at agreed
            cases agreed
      · rcases List.append_eq_append_iff.mp cut with
          ⟨more, rfl, backShape⟩ | ⟨excess, rfl, excess_eq⟩
        · exact within more rfl backShape
        · by_cases none : excess = []
          · subst none
            refine within [] ?_ ?_
            · simp
            · simpa using excess_eq.symm
          · obtain ⟨first, second, rfl, firstSame, secondSame⟩ := same_of_append same
            have filled : second ≠ [] := by
              rintro rfl
              exact none (List.length_eq_zero_iff.mp (length_of_same secondSame))
            have agreed := agree_of_append excess_eq.symm
            rw [codes_eq_of_same secondSame, (isLeft.apart listed).before first second rfl filled
              front gone rfl firstSame] at agreed
            cases agreed

/-- The gap holds on both sides. -/
theorem gap (alike : Alike phrases kind left right) {gap : Gap}
    (runs : ∀ other, gap = .run other → ∀ unit, other unit = true → kind unit = true)
    (holds : gap.Holds left) : gap.Holds right := by
  cases gap with
  | nothing =>
      exact alike.eq_nil holds
  | line =>
      exact alike.isLine holds
  | run other =>
      have same := alike.eq_of_run fun unit member => runs other rfl unit (holds.2 unit member)
      rw [← same]
      exact holds

/-- A pattern whose phrases and runs are known reads the other text as well. -/
theorem reads {pattern : Pattern} (alike : Alike phrases kind left right)
    (known : ∀ phrase ∈ pattern.phrases, phrase ∈ phrases)
    (runs : ∀ other, Gap.run other ∈ pattern.gaps → ∀ unit, other unit = true → kind unit = true)
    (reads : pattern.Reads left) : pattern.Reads right := by
  induction pattern generalizing left right with
  | last gap =>
      exact alike.gap (fun other same => runs other (by simp [Pattern.gaps, same])) reads
  | upTo gap phrase rest inductionHypothesis =>
      obtain ⟨front, middle, back, shape, holds, same, restReads⟩ := reads
      obtain ⟨otherFront, otherBack, otherShape, fronts, backs⟩ :=
        alike.occurrence (known phrase List.mem_cons_self) shape same
      refine ⟨otherFront, middle, otherBack, otherShape, fronts.gap (fun other isRun => ?_) holds,
        same, inductionHypothesis backs (fun other listed => ?_) (fun other listed => ?_)
          restReads⟩
      · exact runs other (by simp [Pattern.gaps, isRun])
      · exact known other (List.mem_cons_of_mem _ listed)
      · exact runs other (List.mem_cons_of_mem _ listed)

/-- With a blank between them. -/
theorem spaced (alike : Alike phrases kind left right) {later otherLater : JsString}
    (alikeLater : Alike phrases kind later otherLater) :
    Alike phrases kind (left ++ 0x20 :: later) (right ++ 0x20 :: otherLater) := by
  induction alike with
  | own text =>
      cases alikeLater with
      | own =>
          exact .own _
      | beside isLeft isRight rest =>
          have joined := Alike.beside (isLeft.spaced text) (isRight.spaced text) rest
          simpa using joined
  | beside isLeft isRight rest inductionHypothesis =>
      have joined := Alike.beside isLeft isRight inductionHypothesis
      simpa using joined

theorem join {lefts rights : List JsString}
    (alike : List.Forall₂ (Alike phrases kind) lefts rights) :
    Alike phrases kind ([0x20].intercalate lefts) ([0x20].intercalate rights) := by
  induction alike with
  | nil =>
      exact .own _
  | cons first rest inductionHypothesis =>
      cases rest with
      | nil =>
          simpa using first
      | cons next others =>
          simpa [List.intercalate_cons_cons] using first.spaced inductionHypothesis

end Alike

end Tchuno.Library.JsString
