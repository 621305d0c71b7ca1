import Mathlib.Data.List.Chain
import Tchuno.AdminOps.PlatformSettings

/-!
# The slugs of categories

`normalizeSlug` makes a slug out of any text that has a letter or a digit.  The slugs which
`CreateCategoryDto` admits are exactly those it leaves as they are.
-/

namespace Tchuno.Catalog

open Tchuno.Library.Ecma Tchuno.Payments

/-! ## The grammar -/

/-- `[a-z0-9]` -/
def isSlugCharacter (c : Char) : Bool :=
  ('a' ≤ c && c ≤ 'z') || ('0' ≤ c && c ≤ '9')

/-- What may follow in a slug; `inside` after a character which is no dash. -/
def matchesSlugFrom (inside : Bool) : List Char → Bool
  | [] => inside
  | c :: rest =>
      if isSlugCharacter c then matchesSlugFrom true rest
      else inside && c == '-' && matchesSlugFrom false rest

/-- `/^[a-z0-9]+(?:-[a-z0-9]+)*$/` -/
def matchesSlug (text : String) : Bool :=
  matchesSlugFrom false text.toList

/-! ## Normalisation -/

/-- `.replace(/[^a-z0-9]+/g, '-')`; a run is replaced where it ends. -/
def dashRuns : List Char → List Char
  | [] => []
  | c :: rest =>
      if isSlugCharacter c then c :: dashRuns rest
      else if rest.head?.any fun next => !isSlugCharacter next then dashRuns rest
      else '-' :: dashRuns rest

/-- `.replace(/^-+|-+$/g, '')` -/
def stripDashes (text : List Char) : List Char :=
  strip (· == '-') text

/-- Two dashes or more are replaced by one. -/
def collapseDashes : List Char → List Char
  | [] => []
  | c :: rest =>
      if c == '-' && rest.head? == some '-' then collapseDashes rest
      else c :: collapseDashes rest

/-- The words of the text, joined by single dashes. -/
def slugOf (input : String) : String :=
  String.ofList (collapseDashes (stripDashes (dashRuns (trim (toLowerCase input)).toList)))

def normalizeSlug (input : String) : Except ApiError String :=
  let slug := slugOf input
  if slug = "" then .error (.conflict "Unable to generate a valid slug") else .ok slug

/-! ## Words with single dashes -/

/-- No dash stands next to a dash. -/
def Apart (first second : Char) : Prop :=
  first = '-' → second ≠ '-'

structure IsWord (text : List Char) : Prop where
  characters : ∀ c ∈ text, isSlugCharacter c = true ∨ c = '-'
  apart : text.IsChain Apart

theorem ne_dash_of_isSlugCharacter {c : Char} (plain : isSlugCharacter c = true) : c ≠ '-' := by
  rintro rfl
  cases plain

theorem isWord_nil : IsWord [] where
  characters := fun c member => by cases member
  apart := .nil

theorem IsWord.tail {c : Char} {rest : List Char} (word : IsWord (c :: rest)) : IsWord rest where
  characters := fun other member => word.characters other (List.mem_cons_of_mem _ member)
  apart := (List.isChain_cons.mp word.apart).2

theorem IsWord.within {part text : List Char} (word : IsWord text) (inside : part <:+: text) :
    IsWord part where
  characters := fun c member => word.characters c (inside.subset member)
  apart := List.IsChain.infix word.apart inside

theorem isWord_cons_of_plain {c : Char} {rest : List Char} (plain : isSlugCharacter c = true) :
    IsWord (c :: rest) ↔ IsWord rest := by
  refine ⟨IsWord.tail, fun word => ⟨?_, ?_⟩⟩
  · intro other member
    rcases List.mem_cons.mp member with rfl | later
    · exact .inl plain
    · exact word.characters other later
  · refine List.isChain_cons.mpr ⟨fun next _ dash => ?_, word.apart⟩
    exact absurd dash (ne_dash_of_isSlugCharacter plain)

theorem isWord_cons_dash {rest : List Char} :
    IsWord ('-' :: rest) ↔ rest.head? ≠ some '-' ∧ IsWord rest := by
  constructor
  · intro word
    refine ⟨fun doubled => ?_, word.tail⟩
    exact (List.isChain_cons.mp word.apart).1 '-' doubled rfl rfl
  · rintro ⟨single, word⟩
    refine ⟨fun c member => ?_, List.isChain_cons.mpr ⟨fun next first _ => ?_, word.apart⟩⟩
    · rcases List.mem_cons.mp member with rfl | later
      · exact .inr rfl
      · exact word.characters c later
    · rintro rfl
      exact single first

/-- The grammar: words which do not end in a dash, nor begin with one unless inside. -/
theorem matchesSlugFrom_iff (inside : Bool) (text : List Char) :
    matchesSlugFrom inside text = true ↔
      IsWord text ∧ text.getLast? ≠ some '-' ∧
        (inside = false → text.head? ≠ some '-' ∧ text ≠ []) := by
  induction text generalizing inside with
  | nil =>
      rw [matchesSlugFrom]
      simp [isWord_nil]
  | cons c rest inductionHypothesis =>
      rw [matchesSlugFrom]
      by_cases plain : isSlugCharacter c = true
      · have different := ne_dash_of_isSlugCharacter plain
        rw [if_pos plain, inductionHypothesis, isWord_cons_of_plain plain]
        cases rest with
        | nil => simp [different, isWord_nil]
        | cons next others => simp [different]
      · rw [if_neg plain]
        by_cases dash : c = '-'
        · subst dash
          rw [isWord_cons_dash, Bool.and_eq_true, inductionHypothesis]
          cases rest with
          | nil => simp
          | cons next others =>
              cases inside with
              | false => simp
              | true => simp; tauto
        · have noWord : ¬ IsWord (c :: rest) := fun word =>
            (word.characters c List.mem_cons_self).elim plain dash
          simp [dash, noWord]

/-! ## What the steps leave -/

theorem head?_dashRuns {text : List Char}
    (plain : text.head?.any (fun next => !isSlugCharacter next) = false) :
    (dashRuns text).head? ≠ some '-' := by
  cases text with
  | nil => simp [dashRuns]
  | cons c rest =>
      have letter : isSlugCharacter c = true := by simpa using plain
      rw [dashRuns, if_pos letter, List.head?_cons]
      exact fun same => ne_dash_of_isSlugCharacter letter (Option.some.inj same)

theorem isWord_dashRuns (text : List Char) : IsWord (dashRuns text) := by
  induction text with
  | nil => exact isWord_nil
  | cons c rest inductionHypothesis =>
      rw [dashRuns]
      split_ifs with plain again
      · exact (isWord_cons_of_plain plain).mpr inductionHypothesis
      · exact inductionHypothesis
      · refine isWord_cons_dash.mpr ⟨head?_dashRuns ?_, inductionHypothesis⟩
        exact Bool.eq_false_iff.mpr again

/-- A word is left alone, unless it has a dash to strip. -/
theorem dashRuns_of_isWord {text : List Char} (word : IsWord text) : dashRuns text = text := by
  induction text with
  | nil => rfl
  | cons c rest inductionHypothesis =>
      rw [dashRuns, inductionHypothesis word.tail]
      rcases word.characters c List.mem_cons_self with plain | rfl
      · rw [if_pos plain]
      · have single := (isWord_cons_dash.mp word).1
        rw [if_neg (by decide), if_neg]
        cases rest with
        | nil => simp
        | cons next others =>
            have letter : isSlugCharacter next = true :=
              (word.tail.characters next List.mem_cons_self).resolve_right
                fun dash => single (congrArg some dash)
            simp [letter]

theorem collapseDashes_of_isWord {text : List Char} (word : IsWord text) :
    collapseDashes text = text := by
  induction text with
  | nil => rfl
  | cons c rest inductionHypothesis =>
      rw [collapseDashes, inductionHypothesis word.tail, if_neg]
      intro doubled
      rw [Bool.and_eq_true, beq_iff_eq, beq_iff_eq] at doubled
      obtain ⟨rfl, again⟩ := doubled
      exact (isWord_cons_dash.mp word).1 again

/-- A dash that is stripped is no end of what is left. -/
theorem stripDashes_ends (text : List Char) :
    (stripDashes text).head? ≠ some '-' ∧ (stripDashes text).getLast? ≠ some '-' := by
  constructor
  · intro starts
    have rejected := rejects_head?_strip starts
    cases rejected
  · intro ends
    have rejected := rejects_getLast?_strip ends
    cases rejected

theorem stripDashes_of_ends {text : List Char} (starts : text.head? ≠ some '-')
    (ends : text.getLast? ≠ some '-') : stripDashes text = text := by
  refine strip_of_ends (fun c first => ?_) fun c last => ?_
  · rw [beq_eq_false_iff_ne]
    rintro rfl
    exact starts first
  · rw [beq_eq_false_iff_ne]
    rintro rfl
    exact ends last

/-! ## Slugs -/

theorem matchesSlug_iff (text : String) :
    matchesSlug text = true ↔
      IsWord text.toList ∧ text.toList.getLast? ≠ some '-' ∧
        text.toList.head? ≠ some '-' ∧ text ≠ "" := by
  rw [matchesSlug, matchesSlugFrom_iff]
  simp

theorem toList_slugOf (input : String) :
    (slugOf input).toList = stripDashes (dashRuns (trim (toLowerCase input)).toList) := by
  rw [slugOf, String.toList_ofList]
  exact collapseDashes_of_isWord ((isWord_dashRuns _).within (within_strip _ _))

theorem normalizeSlug_eq_ok {input slug : String} :
    normalizeSlug input = .ok slug ↔ slugOf input = slug ∧ slug ≠ "" := by
  unfold normalizeSlug
  dsimp only
  split_ifs with empty
  · simp only [false_iff, not_and, not_not]
    rintro rfl
    exact empty
  · rw [Except.ok.injEq]
    exact ⟨fun same => ⟨same, same ▸ empty⟩, And.left⟩

/-- Whatever is made a slug is one. -/
theorem matchesSlug_of_normalizeSlug {input slug : String}
    (normalized : normalizeSlug input = .ok slug) : matchesSlug slug = true := by
  obtain ⟨rfl, filled⟩ := normalizeSlug_eq_ok.mp normalized
  refine (matchesSlug_iff _).mpr ⟨?_, ?_, ?_, filled⟩
  · rw [toList_slugOf]
    exact (isWord_dashRuns _).within (within_strip _ _)
  · rw [toList_slugOf]
    exact (stripDashes_ends _).2
  · rw [toList_slugOf]
    exact (stripDashes_ends _).1

/-- A slug is neither trimmed nor changed in case. -/
theorem trim_toLowerCase_of_isWord {text : String} (word : IsWord text.toList) :
    trim (toLowerCase text) = text := by
  have plain : ∀ c ∈ text.toList, isWhiteSpace c = false ∧ lowerCaseChar c = [c] := by
    intro c member
    apply AdminOps.plain_of_key
    rcases word.characters c member with letter | rfl
    · exact .inl letter
    · exact .inr rfl
  have lower : text.toList.flatMap lowerCaseChar = text.toList := by
    have single : text.toList.flatMap lowerCaseChar = text.toList.flatMap fun c => [c] :=
      List.flatMap_congr fun c member => (plain c member).2
    rw [single, List.flatMap_singleton']
  rw [toLowerCase, lower, String.ofList_toList]
  exact trim_of_forall fun c member => (plain c member).1

theorem normalizeSlug_of_matchesSlug {slug : String} (matched : matchesSlug slug = true) :
    normalizeSlug slug = .ok slug := by
  obtain ⟨word, ends, starts, filled⟩ := (matchesSlug_iff slug).mp matched
  refine normalizeSlug_eq_ok.mpr ⟨?_, filled⟩
  rw [slugOf, trim_toLowerCase_of_isWord word, dashRuns_of_isWord word,
    stripDashes_of_ends starts ends, collapseDashes_of_isWord word, String.ofList_toList]

/-- The grammar admits exactly the texts which normalisation leaves as they are, and nothing
is normalised twice. -/
theorem slugs_are_fixed (text : String) :
    (matchesSlug text = true ↔ normalizeSlug text = .ok text) ∧
      (normalizeSlug text >>= normalizeSlug) = normalizeSlug text := by
  refine ⟨⟨normalizeSlug_of_matchesSlug, matchesSlug_of_normalizeSlug⟩, ?_⟩
  cases normalized : normalizeSlug text with
  | error refusal => rfl
  | ok slug =>
      refine (pure_bind slug normalizeSlug).trans ?_
      exact normalizeSlug_of_matchesSlug (matchesSlug_of_normalizeSlug normalized)

example : (normalizeSlug " Água & Gás -- 24h ").toOption = some "gua-g-s-24h" := by decide

end Tchuno.Catalog
