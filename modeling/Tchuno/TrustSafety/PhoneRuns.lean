import Tchuno.TrustSafety.Detection
import Tchuno.Library.Texts

/-!
# What the phone expression detects

A match of the expression takes all digits of the run of separators and digits it
stands in.  So the signal is about the runs of the text, not about where the matches
begin.
-/

namespace Tchuno.TrustSafety

open Tchuno.Library.Ecma

/-! ## Runs -/

/-- `[\d\s().-]` -/
def isPhoneCharacter (c : Char) : Bool :=
  isDigit c || isWhiteSpace c || c ∈ ['(', ')', '.', '-']

def digitCount (text : List Char) : Nat :=
  (text.filter isDigit).length

/-- A stretch of phone characters which no phone character precedes or follows. -/
def IsMaximalRun (run text : List Char) : Prop :=
  ∃ before after, text = before ++ run ++ after ∧
    (∀ c ∈ run, isPhoneCharacter c = true) ∧
    (∀ c ∈ before.getLast?, isPhoneCharacter c = false) ∧
    ∀ c ∈ after.head?, isPhoneCharacter c = false

/-- From some place on, eight digits follow before any other character. -/
def IsDense (text : List Char) : Prop :=
  ∃ suffix, suffix <:+ text ∧ 8 ≤ digitCount (suffix.takeWhile isPhoneCharacter)

theorem isPhoneCharacter_of_digit {c : Char} (digit : isDigit c = true) :
    isPhoneCharacter c = true := by
  simp [isPhoneCharacter, digit]

@[simp]
theorem digitCount_nil : digitCount [] = 0 :=
  rfl

@[simp]
theorem digitCount_append (left right : List Char) :
    digitCount (left ++ right) = digitCount left + digitCount right := by
  simp [digitCount]

theorem digitCount_cons (c : Char) (rest : List Char) :
    digitCount (c :: rest) = digitCount [c] + digitCount rest :=
  digitCount_append [c] rest

theorem digitCount_le_of_sublist {left right : List Char} (sublist : left.Sublist right) :
    digitCount left ≤ digitCount right :=
  (sublist.filter isDigit).length_le

theorem digitCount_le_length (text : List Char) : digitCount text ≤ text.length :=
  List.length_filter_le _ _

theorem digitCount_cons_of_not {c : Char} (other : isDigit c = false) (rest : List Char) :
    digitCount (c :: rest) = digitCount rest := by
  simp [digitCount, other]

theorem digitCount_eq_zero {text : List Char} (none : ∀ c ∈ text, isDigit c = false) :
    digitCount text = 0 := by
  have empty : text.filter isDigit = [] := by
    apply List.filter_eq_nil_iff.mpr
    intro c member
    simp [none c member]
  simp [digitCount, empty]

/-! ## Dense texts -/

theorem IsDense.of_suffix {text longer : List Char} (dense : IsDense text)
    (suffix : text <:+ longer) : IsDense longer := by
  obtain ⟨place, at_place, many⟩ := dense
  exact ⟨place, at_place.trans suffix, many⟩

/-- Any stretch of phone characters with eight digits will do. -/
theorem isDense_of_stretch {before stretch after : List Char}
    (phone : ∀ c ∈ stretch, isPhoneCharacter c = true) (many : 8 ≤ digitCount stretch) :
    IsDense (before ++ stretch ++ after) := by
  refine ⟨stretch ++ after, ⟨before, by simp⟩, ?_⟩
  rw [List.takeWhile_append_of_pos phone, digitCount_append]
  omega

theorem isDense_cons {c : Char} {rest : List Char} (dense : IsDense (c :: rest)) :
    8 ≤ digitCount ((c :: rest).takeWhile isPhoneCharacter) ∨ IsDense rest := by
  obtain ⟨place, at_place, many⟩ := dense
  rcases List.suffix_cons_iff.mp at_place with whole | later
  · rw [whole] at many
    exact Or.inl many
  · exact Or.inr ⟨place, later, many⟩

/-- A character which is not a digit begins nothing. -/
theorem isDense_of_cons {c : Char} {rest : List Char} (other : isDigit c = false)
    (dense : IsDense (c :: rest)) : IsDense rest := by
  rcases isDense_cons dense with many | later
  · by_cases phone : isPhoneCharacter c = true
    · rw [List.takeWhile_cons_of_pos phone, digitCount_cons_of_not other] at many
      exact ⟨rest, List.suffix_refl rest, many⟩
    · rw [List.takeWhile_cons_of_neg phone] at many
      exact absurd many (by decide)
  · exact later

theorem isDense_of_append_left {front text : List Char}
    (blank : ∀ c ∈ front, isDigit c = false) (dense : IsDense (front ++ text)) :
    IsDense text := by
  induction front with
  | nil =>
      exact dense
  | cons c rest inductionHypothesis =>
      have later := isDense_of_cons (blank c List.mem_cons_self) dense
      exact inductionHypothesis (fun other member =>
        blank other (List.mem_cons_of_mem _ member)) later

theorem isDense_of_append_right {text back : List Char}
    (blank : ∀ c ∈ back, isDigit c = false) (dense : IsDense (text ++ back)) :
    IsDense text := by
  obtain ⟨place, ⟨before, parts⟩, many⟩ := dense
  rcases List.append_eq_append_iff.mp parts with ⟨between, rfl, rest⟩ | ⟨between, rfl, rest⟩
  · refine ⟨between, List.suffix_append before between, ?_⟩
    rw [rest, List.takeWhile_append] at many
    split at many
    · rename_i whole
      have all : between.takeWhile isPhoneCharacter = between :=
        (List.takeWhile_prefix isPhoneCharacter).eq_of_length whole
      have zero : digitCount (back.takeWhile isPhoneCharacter) = 0 :=
        digitCount_eq_zero fun c member =>
          blank c (List.takeWhile_subset isPhoneCharacter member)
      rw [digitCount_append, zero] at many
      rw [all]
      omega
    · exact many
  · have zero : digitCount (place.takeWhile isPhoneCharacter) = 0 := by
      apply digitCount_eq_zero
      intro c member
      apply blank
      rw [rest]
      exact List.mem_append_right between (List.takeWhile_subset isPhoneCharacter member)
    omega

theorem isDense_iff_maximalRun {text : List Char} :
    IsDense text ↔ ∃ run, IsMaximalRun run text ∧ 8 ≤ digitCount run := by
  constructor
  · rintro ⟨place, ⟨before, rfl⟩, many⟩
    have left_parts := congrArg List.reverse
      (@List.takeWhile_append_dropWhile _ isPhoneCharacter before.reverse)
    rw [List.reverse_append, List.reverse_reverse] at left_parts
    have right_parts := @List.takeWhile_append_dropWhile _ isPhoneCharacter place
    refine ⟨(before.reverse.takeWhile isPhoneCharacter).reverse ++
      place.takeWhile isPhoneCharacter,
      ⟨(before.reverse.dropWhile isPhoneCharacter).reverse,
        place.dropWhile isPhoneCharacter, ?_, ?_, ?_, ?_⟩, ?_⟩
    · rw [← List.append_assoc, left_parts, List.append_assoc, right_parts]
    · intro c member
      rcases List.mem_append.mp member with left | right
      · exact List.mem_takeWhile_imp (List.mem_reverse.mp left)
      · exact List.mem_takeWhile_imp right
    · intro c last
      rw [List.getLast?_reverse] at last
      have stopped := List.head?_dropWhile_not isPhoneCharacter before.reverse
      rw [Option.mem_def.mp last] at stopped
      exact stopped
    · intro c first
      have stopped := List.head?_dropWhile_not isPhoneCharacter place
      rw [Option.mem_def.mp first] at stopped
      exact stopped
    · rw [digitCount_append]
      omega
  · rintro ⟨run, ⟨before, after, rfl, phone, _, _⟩, many⟩
    exact isDense_of_stretch phone many

/-! ## One match -/

/-- The longest choice which goes on is taken. -/
theorem longestFirst_eq_some {β : Type} {attempt : Nat → Option β} {least longest : Nat}
    {result : β} :
    (List.range' least (longest + 1 - least)).reverse.findSome? attempt = some result →
      ∃ count, least ≤ count ∧ count ≤ longest ∧ attempt count = some result ∧
        ∀ larger, count < larger → larger ≤ longest → attempt larger = none := by
  intro found
  obtain ⟨larger, count, smaller, parts, chosen, failed⟩ := List.findSome?_eq_some_iff.mp found
  have member : count ∈ (List.range' least (longest + 1 - least)).reverse := by
    rw [parts]
    simp
  rw [List.mem_reverse, List.mem_range'_1] at member
  refine ⟨count, by omega, by omega, chosen, ?_⟩
  intro other above at_most
  apply failed
  have listed : other ∈ (List.range' least (longest + 1 - least)).reverse := by
    rw [List.mem_reverse, List.mem_range'_1]
    omega
  rw [parts] at listed
  rcases List.mem_append.mp listed with tried | untried
  · exact tried
  · have ordered : (List.range' least (longest + 1 - least)).reverse.Pairwise (· > ·) := by
      rw [List.pairwise_reverse]
      exact List.pairwise_lt_range'
    rw [parts] at ordered
    rcases List.mem_cons.mp untried with same | below
    · omega
    · have smaller_than := (List.pairwise_cons.mp (List.pairwise_append.mp ordered).2.1).1
        other below
      omega

theorem longestFirst_isSome {β : Type} {attempt : Nat → Option β} {least longest count : Nat}
    (at_least : least ≤ count) (at_most : count ≤ longest)
    (passes : (attempt count).isSome = true) :
    ((List.range' least (longest + 1 - least)).reverse.findSome? attempt).isSome = true := by
  rw [List.findSome?_isSome_iff]
  refine ⟨count, ?_, passes⟩
  rw [List.mem_reverse, List.mem_range'_1]
  omega

theorem matchLength_one (accept : Char → Bool) (rest : List Atom) (before : Option Char)
    (input : List Char) :
    matchLength (one accept :: rest) before input =
      match input with
      | [] => none
      | c :: later =>
          if accept c then (matchLength rest (some c) later).map (1 + ·) else none := by
  cases input with
  | nil =>
      simp [matchLength, one]
  | cons c later =>
      by_cases accepted : accept c = true
      · simp [matchLength, one, accepted]
      · simp [matchLength, one, accepted]

/-- The expression behind the optional sign. -/
def phoneCore : List Atom :=
  [one isDigit, .run isPhoneCharacter 6 none, one isDigit]

theorem matchLength_digit (before : Option Char) (input : List Char) :
    matchLength [one isDigit] before input =
      match input with
      | [] => none
      | c :: _ => if isDigit c then some 1 else none := by
  rw [matchLength_one]
  cases input with
  | nil =>
      rfl
  | cons c later =>
      by_cases digit : isDigit c = true
      · simp [matchLength, digit]
      · simp [digit]

/-- What a number of characters of the class, then a digit, would match. -/
def phoneAttempt (before : Option Char) (tail : List Char) (count : Nat) : Option Nat :=
  (matchLength [one isDigit] ((tail.take count).getLast?.or before) (tail.drop count)).map
    (count + ·)

theorem matchLength_phoneCore (before : Option Char) (d : Char) (tail : List Char) :
    matchLength phoneCore before (d :: tail) =
      if isDigit d then
        ((List.range' 6 ((tail.takeWhile isPhoneCharacter).length + 1 - 6)).reverse.findSome?
          (phoneAttempt (some d) tail)).map (1 + ·)
      else
        none := by
  rw [phoneCore, matchLength_one]
  dsimp only
  by_cases digit : isDigit d = true
  · rw [if_pos digit, if_pos digit]
    rfl
  · rw [if_neg digit, if_neg digit]

theorem phoneAttempt_eq_some {before : Option Char} {tail : List Char} {count result : Nat} :
    phoneAttempt before tail count = some result ↔
      ∃ c later, tail.drop count = c :: later ∧ isDigit c = true ∧ result = count + 1 := by
  unfold phoneAttempt
  rw [matchLength_digit]
  cases tail.drop count with
  | nil =>
      simp
  | cons c later =>
      by_cases digit : isDigit c = true
      · constructor
        · intro passed
          have result_eq : count + 1 = result := by simpa [digit] using passed
          exact ⟨c, _, rfl, digit, result_eq.symm⟩
        · rintro ⟨_, _, _, _, rfl⟩
          simp [digit]
      · constructor
        · intro passed
          simp [digit] at passed
        · rintro ⟨other, _, same, other_digit, _⟩
          cases same
          exact absurd other_digit digit

theorem phoneAttempt_eq_none {before : Option Char} {tail later : List Char} {count : Nat}
    {c : Char} (failed : phoneAttempt before tail count = none)
    (next : tail.drop count = c :: later) : isDigit c = false := by
  by_contra digit
  have passed : phoneAttempt before tail count = some (count + 1) :=
    phoneAttempt_eq_some.mpr ⟨c, later, next, by simpa using digit, rfl⟩
  rw [failed] at passed
  cases passed

/-- A match takes every digit of the run it begins. -/
theorem phoneCore_digits {before : Option Char} {d : Char} {tail : List Char} {length : Nat}
    (found : matchLength phoneCore before (d :: tail) = some length) :
    isDigit d = true ∧ 1 ≤ length ∧
      length ≤ ((d :: tail).takeWhile isPhoneCharacter).length ∧
      digitCount ((d :: tail).take length) =
        digitCount ((d :: tail).takeWhile isPhoneCharacter) := by
  rw [matchLength_phoneCore] at found
  by_cases digit : isDigit d = true
  · rw [if_pos digit] at found
    obtain ⟨middle, chosen, rfl⟩ := Option.map_eq_some_iff.mp found
    obtain ⟨count, _, at_most, attempted, failed⟩ := longestFirst_eq_some chosen
    obtain ⟨c, later, next, last_digit, rfl⟩ := phoneAttempt_eq_some.mp attempted
    have parts := @List.takeWhile_append_dropWhile _ isPhoneCharacter tail
    have stopped := List.head?_dropWhile_not isPhoneCharacter tail
    have whole : (d :: tail).takeWhile isPhoneCharacter =
        d :: tail.takeWhile isPhoneCharacter :=
      List.takeWhile_cons_of_pos (isPhoneCharacter_of_digit digit)
    rw [whole]
    generalize tail.takeWhile isPhoneCharacter = run at at_most failed parts
    generalize tail.dropWhile isPhoneCharacter = rest at parts stopped
    subst parts
    have inside : count < run.length := by
      by_contra outside
      have all : count = run.length := by omega
      rw [all, List.drop_left] at next
      rw [next] at stopped
      exact absurd (isPhoneCharacter_of_digit last_digit) (by simpa using stopped)
    have behind : digitCount (run.drop (count + 1)) = 0 := by
      apply digitCount_eq_zero
      intro other member
      obtain ⟨index, bound, same⟩ := List.getElem_of_mem member
      rw [List.length_drop] at bound
      rw [List.getElem_drop] at same
      have none_at := failed (count + 1 + index) (by omega) (by omega)
      apply phoneAttempt_eq_none none_at
      rw [List.drop_append_of_le_length (by omega), List.drop_eq_getElem_cons (by omega), same]
      rfl
    have taken : (d :: (run ++ rest)).take (1 + (count + 1)) = d :: run.take (count + 1) := by
      rw [Nat.add_comm 1, List.take_succ_cons, List.take_append_of_le_length (by omega)]
    have divided := congrArg digitCount (List.take_append_drop (count + 1) run)
    rw [digitCount_append, behind] at divided
    refine ⟨digit, by omega, by simp only [List.length_cons]; omega, ?_⟩
    rw [taken, digitCount_cons, digitCount_cons d run]
    omega
  · rw [if_neg digit] at found
    cases found

/-- With eight digits the run is long enough to be matched. -/
theorem phoneCore_isSome {before : Option Char} {d : Char} {tail : List Char}
    (digit : isDigit d = true)
    (many : 8 ≤ digitCount ((d :: tail).takeWhile isPhoneCharacter)) :
    (matchLength phoneCore before (d :: tail)).isSome = true := by
  rw [matchLength_phoneCore, if_pos digit, Option.isSome_map]
  rw [List.takeWhile_cons_of_pos (isPhoneCharacter_of_digit digit), digitCount_cons] at many
  have one_digit := digitCount_le_length [d]
  have parts := @List.takeWhile_append_dropWhile _ isPhoneCharacter tail
  generalize tail.takeWhile isPhoneCharacter = run at many parts
  have divided := congrArg digitCount (List.take_append_drop 6 run)
  rw [digitCount_append] at divided
  have first_six := digitCount_le_length (run.take 6)
  have six := List.length_take_le 6 run
  have some_digit : 0 < digitCount (run.drop 6) := by
    simp only [List.length_singleton] at one_digit
    omega
  obtain ⟨c, member⟩ := List.exists_mem_of_length_pos some_digit
  obtain ⟨listed, last_digit⟩ := List.mem_filter.mp member
  obtain ⟨index, bound, same⟩ := List.getElem_of_mem listed
  rw [List.length_drop] at bound
  rw [List.getElem_drop] at same
  have next : tail.drop (6 + index) = c :: (run.drop (6 + index + 1) ++
      tail.dropWhile isPhoneCharacter) := by
    rw [← parts, List.drop_append_of_le_length (by omega),
      List.drop_eq_getElem_cons (by omega), same, parts]
    rfl
  have attempted : phoneAttempt (some d) tail (6 + index) = some (6 + index + 1) :=
    phoneAttempt_eq_some.mpr ⟨c, _, next, last_digit, rfl⟩
  exact longestFirst_isSome (by omega) (by omega)
    (Option.isSome_iff_exists.mpr ⟨_, attempted⟩)

theorem matchLength_phoneCore_of_not {before : Option Char} {input : List Char}
    (other : ∀ c ∈ input.head?, isDigit c = false) :
    matchLength phoneCore before input = none := by
  rw [phoneCore, matchLength_one]
  cases input with
  | nil =>
      rfl
  | cons c later =>
      simp [other c rfl]

/-- The sign is taken if there is one. -/
theorem matchLength_phoneRegex (before : Option Char) (input : List Char) :
    matchLength phoneRegex before input =
      match input with
      | '+' :: later => (matchLength phoneCore (some '+') later).map (1 + ·)
      | _ => matchLength phoneCore before input := by
  have unfolded : matchLength phoneRegex before input =
      (List.range' 0 (min (input.takeWhile (· = '+')).length 1 + 1 - 0)).reverse.findSome?
        fun count => (matchLength phoneCore ((input.take count).getLast?.or before)
          (input.drop count)).map (count + ·) := rfl
  rw [unfolded]
  cases input with
  | nil =>
      simp
  | cons c later =>
      by_cases sign : c = '+'
      · subst sign
        have plain : matchLength phoneCore before ('+' :: later) = none := by
          apply matchLength_phoneCore_of_not
          intro c first
          cases first
          decide
        have two : (List.range' 0 2).reverse = [1, 0] := by decide
        have one_sign : min (('+' :: later).takeWhile (· = '+')).length 1 + 1 - 0 = 2 := by
          simp
        rw [one_sign, two]
        cases core : matchLength phoneCore (some '+') later with
        | none =>
            simp [core, plain]
        | some length =>
            simp [core]
      · have no_sign : min ((c :: later).takeWhile (· = '+')).length 1 + 1 - 0 = 1 := by
          simp [sign]
        have single : (List.range' 0 1).reverse = [0] := by decide
        rw [no_sign, single]
        simp [sign]

/-- A match is an optional sign and the digits of one run. -/
theorem phoneMatch_digits {before : Option Char} {input : List Char} {length : Nat}
    (found : matchLength phoneRegex before input = some length) :
    ∃ sign core, input = sign ++ core ∧ (∀ c ∈ sign, isPhoneCharacter c = false) ∧
      sign.length < length ∧
      length ≤ sign.length + (core.takeWhile isPhoneCharacter).length ∧
      digitCount (input.take length) = digitCount (core.takeWhile isPhoneCharacter) := by
  rw [matchLength_phoneRegex] at found
  split at found
  · rename_i later
    obtain ⟨middle, core_found, rfl⟩ := Option.map_eq_some_iff.mp found
    cases later with
    | nil =>
        rw [matchLength_phoneCore_of_not (fun c first => by cases first)] at core_found
        cases core_found
    | cons d tail =>
        obtain ⟨_, positive, at_most, digits⟩ := phoneCore_digits core_found
        have no_digit : isDigit '+' = false := by decide
        have no_phone : isPhoneCharacter '+' = false := by decide
        refine ⟨['+'], d :: tail, rfl, ?_, ?_, ?_, ?_⟩
        · intro c member
          rw [List.mem_singleton.mp member]
          exact no_phone
        · simp only [List.length_singleton]
          omega
        · simp only [List.length_singleton]
          omega
        · rw [Nat.add_comm, List.take_succ_cons, digitCount_cons_of_not no_digit, digits]
  · cases input with
    | nil =>
        rw [matchLength_phoneCore_of_not (fun c first => by cases first)] at found
        cases found
    | cons d tail =>
        obtain ⟨_, positive, at_most, digits⟩ := phoneCore_digits found
        exact ⟨[], d :: tail, rfl, nofun, positive, by simpa using at_most, digits⟩

/-! ## All matches -/

/-- Behind a stretch of phone characters with few digits the text is as dense. -/
theorem isDense_after_stretch {stretch rest : List Char}
    (phone : ∀ c ∈ stretch, isPhoneCharacter c = true)
    (few : digitCount ((stretch ++ rest).takeWhile isPhoneCharacter) < 8)
    (dense : IsDense (stretch ++ rest)) : IsDense rest := by
  induction stretch with
  | nil =>
      exact dense
  | cons c tail inductionHypothesis =>
      rw [List.cons_append, List.takeWhile_cons_of_pos (phone c List.mem_cons_self),
        digitCount_cons] at few
      have tail_phone : ∀ other ∈ tail, isPhoneCharacter other = true := fun other member =>
        phone other (List.mem_cons_of_mem c member)
      apply inductionHypothesis tail_phone (by omega)
      rcases isDense_cons dense with many | later
      · rw [List.takeWhile_cons_of_pos (phone c List.mem_cons_self), digitCount_cons] at many
        exact absurd (Nat.lt_of_le_of_lt many few) (Nat.lt_irrefl 8)
      · exact later

theorem isDense_after_match {before : Option Char} {input : List Char} {length : Nat}
    (found : matchLength phoneRegex before input = some length)
    (few : digitCount (input.take length) < 8) (dense : IsDense input) :
    IsDense (input.drop length) := by
  obtain ⟨sign, core, rfl, unsigned, longer, at_most, digits⟩ := phoneMatch_digits found
  rw [digits] at few
  have not_digit : ∀ c ∈ sign, isDigit c = false := by
    intro c member
    by_contra digit
    have phone := isPhoneCharacter_of_digit (by simpa using digit)
    rw [unsigned c member] at phone
    cases phone
  have core_dense := isDense_of_append_left not_digit dense
  have dropped : (sign ++ core).drop length = core.drop (length - sign.length) := by
    rw [List.drop_append, List.drop_eq_nil_of_le (by omega), List.nil_append]
  have parts := List.take_append_drop (length - sign.length) core
  have within : core.take (length - sign.length) <+: core.takeWhile isPhoneCharacter := by
    have run := List.takeWhile_prefix isPhoneCharacter (l := core)
    rw [List.prefix_iff_eq_take.mp run]
    exact List.take_prefix_take_left (by omega)
  rw [dropped]
  apply isDense_after_stretch (fun c member => List.mem_takeWhile_imp (within.subset member))
  · rw [parts]
    exact few
  · rw [parts]
    exact core_dense

theorem isDense_of_unmatched {before : Option Char} {c : Char} {rest : List Char}
    (unmatched : matchLength phoneRegex before (c :: rest) = none)
    (dense : IsDense (c :: rest)) : IsDense rest := by
  by_cases digit : isDigit c = true
  · rcases isDense_cons dense with many | later
    · have found := @phoneCore_isSome before c rest digit many
      have unsigned : matchLength phoneRegex before (c :: rest) =
          matchLength phoneCore before (c :: rest) := by
        rw [matchLength_phoneRegex]
        split
        · rename_i same
          cases same
          exact absurd digit (by decide)
        · rfl
      rw [← unsigned, unmatched] at found
      cases found
    · exact later
  · exact isDense_of_cons (by simpa using digit) dense

theorem allMatches_skip (atoms : List Atom) (before : Option Char) (skip : Nat)
    (input : List Char) :
    ∃ later, allMatches atoms before skip input = allMatches atoms later 0 (input.drop skip) := by
  induction input generalizing before skip with
  | nil =>
      exact ⟨none, by simp [allMatches]⟩
  | cons c rest inductionHypothesis =>
      cases skip with
      | zero =>
          exact ⟨before, rfl⟩
      | succ skip =>
          obtain ⟨later, same⟩ := inductionHypothesis (some c) skip
          exact ⟨later, by simpa [allMatches] using same⟩

/-- No earlier match hides a run with eight digits. -/
theorem exists_match_of_dense (input : List Char) (before : Option Char)
    (dense : IsDense input) :
    ∃ found ∈ allMatches phoneRegex before 0 input, 8 ≤ digitCount found := by
  induction size : input.length using Nat.strong_induction_on generalizing input before with
  | _ size inductionHypothesis =>
    cases input with
    | nil =>
        obtain ⟨place, at_place, many⟩ := dense
        rw [List.suffix_nil.mp at_place] at many
        exact absurd many (by decide)
    | cons c rest =>
        rw [List.length_cons] at size
        cases matched : matchLength phoneRegex before (c :: rest) with
        | none =>
            have later := isDense_of_unmatched matched dense
            obtain ⟨found, member, many⟩ :=
              inductionHypothesis rest.length (by omega) rest (some c) later rfl
            exact ⟨found, by rw [allMatches, matched]; exact member, many⟩
        | some length =>
            obtain ⟨sign, _, _, _, longer, _, _⟩ := phoneMatch_digits matched
            obtain ⟨length, rfl⟩ : ∃ shorter, length = shorter + 1 := ⟨length - 1, by omega⟩
            by_cases many : 8 ≤ digitCount ((c :: rest).take (length + 1))
            · exact ⟨(c :: rest).take (length + 1), by rw [allMatches, matched]; simp, many⟩
            · have later := isDense_after_match matched (by omega) dense
              rw [List.drop_succ_cons] at later
              obtain ⟨next, same⟩ := allMatches_skip phoneRegex (some c) length rest
              obtain ⟨found, member, digits⟩ := inductionHypothesis (rest.drop length).length
                (by rw [List.length_drop]; omega) (rest.drop length) next later rfl
              refine ⟨found, ?_, digits⟩
              rw [allMatches, matched]
              exact List.mem_cons_of_mem _ (same ▸ member)

theorem isDense_of_match {input : List Char} {before : Option Char} {skip : Nat}
    {found : List Char} (member : found ∈ allMatches phoneRegex before skip input)
    (many : 8 ≤ digitCount found) : IsDense input := by
  induction input generalizing before skip with
  | nil =>
      simp [allMatches] at member
  | cons c rest inductionHypothesis =>
      have tail_suffix : rest <:+ c :: rest := List.suffix_cons c rest
      cases skip with
      | succ skip =>
          rw [allMatches] at member
          exact (inductionHypothesis member).of_suffix tail_suffix
      | zero =>
          rw [allMatches] at member
          split at member
          · rename_i length matched
            rcases List.mem_cons.mp member with same | later
            · obtain ⟨sign, core, parts, _, _, _, digits⟩ := phoneMatch_digits matched
              rw [same, digits] at many
              exact ⟨core, ⟨sign, parts.symm⟩, many⟩
            · exact (inductionHypothesis later).of_suffix tail_suffix
          · exact (inductionHypothesis member).of_suffix tail_suffix

theorem hasPhoneLike_iff (text : String) : hasPhoneLike text = true ↔ IsDense text.toList := by
  unfold hasPhoneLike
  rw [List.any_eq_true]
  constructor
  · rintro ⟨found, member, many⟩
    exact isDense_of_match member (of_decide_eq_true many)
  · intro dense
    obtain ⟨found, member, many⟩ := exists_match_of_dense text.toList none dense
    exact ⟨found, member, decide_eq_true many⟩

/-! ## The signal -/

def ReportsPhone (content : String) : Prop :=
  ∃ detection, detectContactSharing content = some detection ∧ .phone ∈ detection.signals

theorem reportsPhone_iff (content : String) :
    ReportsPhone content ↔ hasPhoneLike (trim content) = true := by
  have signal : .phone ∈ contactSignals content ↔ hasPhoneLike (trim content) = true := by
    unfold contactSignals
    dsimp only
    generalize occurs emailRegex none (trim content).toList = email
    generalize occurs urlRegex none (trim content).toList = url
    generalize hasPhoneLike (trim content) = phone
    generalize occurs keywordRegex none (toLowerCase (trim content)).toList = keyword
    cases email <;> cases url <;> cases phone <;> cases keyword <;> decide
  rw [← signal]
  unfold ReportsPhone detectContactSharing
  dsimp only
  by_cases silent : contactSignals content = []
  · rw [if_pos silent, silent]
    constructor
    · rintro ⟨detection, detected, _⟩
      cases detected
    · intro member
      cases member
  · rw [if_neg silent]
    constructor
    · rintro ⟨detection, detected, member⟩
      rw [← Option.some.inj detected] at member
      exact member
    · intro member
      exact ⟨_, rfl, member⟩

theorem not_digit_of_whiteSpace {c : Char} (blank : isWhiteSpace c = true) :
    isDigit c = false := by
  by_contra digit
  have bounds : 48 ≤ c.toNat ∧ c.toNat ≤ 57 := by
    simpa [isDigit, Char.isDigit_iff_toNat] using digit
  simp only [isWhiteSpace, List.mem_cons, List.not_mem_nil, or_false, Bool.or_eq_true,
    Bool.and_eq_true, decide_eq_true_eq] at blank
  omega

theorem isDense_trim {content : String} (dense : IsDense content.toList) :
    IsDense (trim content).toList := by
  obtain ⟨front, back, parts, front_blank, back_blank⟩ := trim_decomposition content
  rw [parts] at dense
  have cut := isDense_of_append_right
    (fun c member => not_digit_of_whiteSpace (back_blank c member)) dense
  exact isDense_of_append_left
    (fun c member => not_digit_of_whiteSpace (front_blank c member)) cut

/-- The signal is there exactly for a maximal run with eight digits; phone characters
put into such a run, and any text around it, leave it there. -/
theorem phone_signal_iff (content : String) :
    (ReportsPhone content ↔
        ∃ run, IsMaximalRun run (trim content).toList ∧ 8 ≤ digitCount run) ∧
      ∀ run, IsMaximalRun run (trim content).toList → 8 ≤ digitCount run →
        ∀ separated : List Char, run.Sublist separated →
          (∀ c ∈ separated, isPhoneCharacter c = true) →
            ∀ before after : List Char,
              ReportsPhone (String.ofList (before ++ separated ++ after)) := by
  constructor
  · rw [reportsPhone_iff, hasPhoneLike_iff, isDense_iff_maximalRun]
  · intro run _ many separated inserted phone before after
    have more := digitCount_le_of_sublist inserted
    rw [reportsPhone_iff, hasPhoneLike_iff]
    apply isDense_trim
    rw [String.toList_ofList]
    exact isDense_of_stretch phone (by omega)

end Tchuno.TrustSafety
