import Mathlib.Data.List.Infix
import Mathlib.Data.List.Dedup
import Mathlib.Data.List.Perm.Basic
import Tchuno.Library.Texts

/-!
# Matching of locations

`buildLocationMatch` compares a request with a worker: first the normalised texts, then
the known municipalities with their subzones, then the words.
-/

namespace Tchuno.Web

open Tchuno.Library.Ecma

/-! ## Normalised text -/

/-- The letters which decompose into an ASCII letter and marks of the range U+0300 – U+036F. -/
def accentedLetters : List (Char × List Char) :=
  [('a', ['À', 'Á', 'Â', 'Ã', 'Ä', 'Å', 'à', 'á', 'â', 'ã', 'ä', 'å', 'Ā', 'ā', 'Ă', 'ă', 'Ą',
      'ą', 'Ǎ', 'ǎ', 'Ǟ', 'ǟ', 'Ǡ', 'ǡ', 'Ǻ', 'ǻ', 'Ȁ', 'ȁ', 'Ȃ', 'ȃ', 'Ȧ', 'ȧ', 'Ḁ', 'ḁ', 'Ạ',
      'ạ', 'Ả', 'ả', 'Ấ', 'ấ', 'Ầ', 'ầ', 'Ẩ', 'ẩ', 'Ẫ', 'ẫ', 'Ậ', 'ậ', 'Ắ', 'ắ', 'Ằ', 'ằ', 'Ẳ',
      'ẳ', 'Ẵ', 'ẵ', 'Ặ', 'ặ', 'Å']),
    ('b', ['Ḃ', 'ḃ', 'Ḅ', 'ḅ', 'Ḇ', 'ḇ']),
    ('c', ['Ç', 'ç', 'Ć', 'ć', 'Ĉ', 'ĉ', 'Ċ', 'ċ', 'Č', 'č', 'Ḉ', 'ḉ']),
    ('d', ['Ď', 'ď', 'Ḋ', 'ḋ', 'Ḍ', 'ḍ', 'Ḏ', 'ḏ', 'Ḑ', 'ḑ', 'Ḓ', 'ḓ']),
    ('e', ['È', 'É', 'Ê', 'Ë', 'è', 'é', 'ê', 'ë', 'Ē', 'ē', 'Ĕ', 'ĕ', 'Ė', 'ė', 'Ę', 'ę', 'Ě',
      'ě', 'Ȅ', 'ȅ', 'Ȇ', 'ȇ', 'Ȩ', 'ȩ', 'Ḕ', 'ḕ', 'Ḗ', 'ḗ', 'Ḙ', 'ḙ', 'Ḛ', 'ḛ', 'Ḝ', 'ḝ', 'Ẹ',
      'ẹ', 'Ẻ', 'ẻ', 'Ẽ', 'ẽ', 'Ế', 'ế', 'Ề', 'ề', 'Ể', 'ể', 'Ễ', 'ễ', 'Ệ', 'ệ']),
    ('f', ['Ḟ', 'ḟ']),
    ('g', ['Ĝ', 'ĝ', 'Ğ', 'ğ', 'Ġ', 'ġ', 'Ģ', 'ģ', 'Ǧ', 'ǧ', 'Ǵ', 'ǵ', 'Ḡ', 'ḡ']),
    ('h', ['Ĥ', 'ĥ', 'Ȟ', 'ȟ', 'Ḣ', 'ḣ', 'Ḥ', 'ḥ', 'Ḧ', 'ḧ', 'Ḩ', 'ḩ', 'Ḫ', 'ḫ', 'ẖ']),
    ('i', ['Ì', 'Í', 'Î', 'Ï', 'ì', 'í', 'î', 'ï', 'Ĩ', 'ĩ', 'Ī', 'ī', 'Ĭ', 'ĭ', 'Į', 'į', 'İ',
      'Ǐ', 'ǐ', 'Ȉ', 'ȉ', 'Ȋ', 'ȋ', 'Ḭ', 'ḭ', 'Ḯ', 'ḯ', 'Ỉ', 'ỉ', 'Ị', 'ị']),
    ('j', ['Ĵ', 'ĵ', 'ǰ']),
    ('k', ['Ķ', 'ķ', 'Ǩ', 'ǩ', 'Ḱ', 'ḱ', 'Ḳ', 'ḳ', 'Ḵ', 'ḵ', 'K']),
    ('l', ['Ĺ', 'ĺ', 'Ļ', 'ļ', 'Ľ', 'ľ', 'Ḷ', 'ḷ', 'Ḹ', 'ḹ', 'Ḻ', 'ḻ', 'Ḽ', 'ḽ']),
    ('m', ['Ḿ', 'ḿ', 'Ṁ', 'ṁ', 'Ṃ', 'ṃ']),
    ('n', ['Ñ', 'ñ', 'Ń', 'ń', 'Ņ', 'ņ', 'Ň', 'ň', 'Ǹ', 'ǹ', 'Ṅ', 'ṅ', 'Ṇ', 'ṇ', 'Ṉ', 'ṉ', 'Ṋ',
      'ṋ']),
    ('o', ['Ò', 'Ó', 'Ô', 'Õ', 'Ö', 'ò', 'ó', 'ô', 'õ', 'ö', 'Ō', 'ō', 'Ŏ', 'ŏ', 'Ő', 'ő', 'Ơ',
      'ơ', 'Ǒ', 'ǒ', 'Ǫ', 'ǫ', 'Ǭ', 'ǭ', 'Ȍ', 'ȍ', 'Ȏ', 'ȏ', 'Ȫ', 'ȫ', 'Ȭ', 'ȭ', 'Ȯ', 'ȯ', 'Ȱ',
      'ȱ', 'Ṍ', 'ṍ', 'Ṏ', 'ṏ', 'Ṑ', 'ṑ', 'Ṓ', 'ṓ', 'Ọ', 'ọ', 'Ỏ', 'ỏ', 'Ố', 'ố', 'Ồ', 'ồ', 'Ổ',
      'ổ', 'Ỗ', 'ỗ', 'Ộ', 'ộ', 'Ớ', 'ớ', 'Ờ', 'ờ', 'Ở', 'ở', 'Ỡ', 'ỡ', 'Ợ', 'ợ']),
    ('p', ['Ṕ', 'ṕ', 'Ṗ', 'ṗ']),
    ('r', ['Ŕ', 'ŕ', 'Ŗ', 'ŗ', 'Ř', 'ř', 'Ȑ', 'ȑ', 'Ȓ', 'ȓ', 'Ṙ', 'ṙ', 'Ṛ', 'ṛ', 'Ṝ', 'ṝ', 'Ṟ',
      'ṟ']),
    ('s', ['Ś', 'ś', 'Ŝ', 'ŝ', 'Ş', 'ş', 'Š', 'š', 'Ș', 'ș', 'Ṡ', 'ṡ', 'Ṣ', 'ṣ', 'Ṥ', 'ṥ', 'Ṧ',
      'ṧ', 'Ṩ', 'ṩ']),
    ('t', ['Ţ', 'ţ', 'Ť', 'ť', 'Ț', 'ț', 'Ṫ', 'ṫ', 'Ṭ', 'ṭ', 'Ṯ', 'ṯ', 'Ṱ', 'ṱ', 'ẗ']),
    ('u', ['Ù', 'Ú', 'Û', 'Ü', 'ù', 'ú', 'û', 'ü', 'Ũ', 'ũ', 'Ū', 'ū', 'Ŭ', 'ŭ', 'Ů', 'ů', 'Ű',
      'ű', 'Ų', 'ų', 'Ư', 'ư', 'Ǔ', 'ǔ', 'Ǖ', 'ǖ', 'Ǘ', 'ǘ', 'Ǚ', 'ǚ', 'Ǜ', 'ǜ', 'Ȕ', 'ȕ', 'Ȗ',
      'ȗ', 'Ṳ', 'ṳ', 'Ṵ', 'ṵ', 'Ṷ', 'ṷ', 'Ṹ', 'ṹ', 'Ṻ', 'ṻ', 'Ụ', 'ụ', 'Ủ', 'ủ', 'Ứ', 'ứ', 'Ừ',
      'ừ', 'Ử', 'ử', 'Ữ', 'ữ', 'Ự', 'ự']),
    ('v', ['Ṽ', 'ṽ', 'Ṿ', 'ṿ']),
    ('w', ['Ŵ', 'ŵ', 'Ẁ', 'ẁ', 'Ẃ', 'ẃ', 'Ẅ', 'ẅ', 'Ẇ', 'ẇ', 'Ẉ', 'ẉ', 'ẘ']),
    ('x', ['Ẋ', 'ẋ', 'Ẍ', 'ẍ']),
    ('y', ['Ý', 'ý', 'ÿ', 'Ŷ', 'ŷ', 'Ÿ', 'Ȳ', 'ȳ', 'Ẏ', 'ẏ', 'ẙ', 'Ỳ', 'ỳ', 'Ỵ', 'ỵ', 'Ỷ', 'ỷ',
      'Ỹ', 'ỹ']),
    ('z', ['Ź', 'ź', 'Ż', 'ż', 'Ž', 'ž', 'Ẑ', 'ẑ', 'Ẓ', 'ẓ', 'Ẕ', 'ẕ'])]

def isCombiningMark (c : Char) : Bool :=
  0x300 ≤ c.toNat && c.toNat ≤ 0x36F

def isLetterOrDigit (c : Char) : Bool :=
  ('a' ≤ c && c ≤ 'z') || ('0' ≤ c && c ≤ '9')

/-- One character after `.normalize("NFD")`, the removal of the marks, `.toLowerCase()` and
`.replace(/[^a-z0-9\s]/g, " ")`; any white space is written as a blank. -/
def foldChar (c : Char) : List Char :=
  if isCombiningMark c then
    []
  else if isLetterOrDigit c.toLower then
    [c.toLower]
  else
    match accentedLetters.find? fun entry => entry.2.contains c with
    | some entry => [entry.1]
    | none => [' ']

/-- `items.join(" ")` -/
def joinWords (items : List String) : String :=
  String.ofList ([' '].intercalate (items.map String.toList))

/-- `text.split(" ")` -/
def splitWords (text : String) : List String :=
  (text.toList.splitOn ' ').map String.ofList

/-- What stands between blanks. -/
def wordsOf (text : List Char) : List String :=
  ((text.splitOn ' ').map String.ofList).filter (· ≠ "")

/-- The last two steps, `.replace(/\s+/g, " ").trim()`, leave single blanks between the words. -/
def normalizeText (value : String) : String :=
  joinWords (wordsOf (value.toList.flatMap foldChar))

/-! ## Parsed locations -/

def locationStopwords : List String :=
  ["a", "ao", "area", "bairro", "cidade", "da", "de", "do", "dos", "e", "em", "local",
    "municipio", "na", "no", "nos", "provincia", "rua", "zona"]

def knownMunicipalities : List String :=
  ["beira", "bilene", "boane", "chimoio", "dondo", "inhambane", "lichinga", "manica",
    "maputo", "marracuene", "matola", "matutuine", "maxixe", "moatize", "nacala", "nampula",
    "pemba", "quelimane", "tete", "xai xai"]

def municipalityGroups : List (String × String) :=
  [("maputo", "greater-maputo"), ("matola", "greater-maputo"), ("boane", "greater-maputo"),
    ("marracuene", "greater-maputo"), ("matutuine", "greater-maputo"),
    ("beira", "beira-corridor"), ("dondo", "beira-corridor"),
    ("nampula", "nampula-corridor"), ("nacala", "nampula-corridor"),
    ("inhambane", "inhambane-bay"), ("maxixe", "inhambane-bay"),
    ("xai xai", "xai-xai-coast"), ("bilene", "xai-xai-coast")]

def isLocationToken (token : String) : Bool :=
  3 ≤ token.length && !locationStopwords.contains token

def getLocationTokensFromNormalized (value : String) : List String :=
  (splitWords value).filter isLocationToken

/-- `[-,;/|]` -/
def isSegmentSeparator (c : Char) : Bool :=
  ['-', ',', ';', '/', '|'].contains c

def splitLocationSegments (value : String) : List String :=
  ((value.toList.splitOnP isSegmentSeparator).map fun segment =>
    normalizeText (String.ofList segment)).filter (· ≠ "")

/-- The longest beginning of at most three tokens which names a municipality, with its
number of tokens. -/
def resolveKnownMunicipality (tokens : List String) : Option String × Nat :=
  match (List.range' 1 (min tokens.length 3)).reverse.find? fun span =>
      knownMunicipalities.contains (joinWords (tokens.take span)) with
  | some span => (some (joinWords (tokens.take span)), span)
  | none => (none, 0)

structure ParsedLocation where
  normalized : String
  tokens : List String
  municipality : Option String
  municipalityGroup : Option String
  subzone : Option String

def firstSegmentTokens (value : String) : List String :=
  match splitLocationSegments value with
  | [] => []
  | segment :: _ => getLocationTokensFromNormalized segment

/-- The municipality with its number of tokens: that of the first segment, or else that of
the whole text. -/
def resolveMunicipality (value : String) (tokens : List String) : Option String × Nat :=
  let segmentMunicipality := resolveKnownMunicipality (firstSegmentTokens value)
  if segmentMunicipality.1.isSome then segmentMunicipality
  else resolveKnownMunicipality tokens

def resolveSubzone (segments tokens : List String) (municipality : Option String × Nat) :
    Option String :=
  if 1 < segments.length then
    some (joinWords ((segments.drop 1).filter (· ≠ "")))
  else if municipality.1.isSome && municipality.2 < tokens.length then
    some (joinWords (tokens.drop municipality.2))
  else
    none

def parseLocation (value : Option String) : Option ParsedLocation :=
  match truthy value with
  | none => none
  | some value =>
      let normalized := normalizeText value
      if normalized = "" then
        none
      else
        let tokens := getLocationTokensFromNormalized normalized
        let municipality := resolveMunicipality value tokens
        some
          { normalized := normalized
            tokens := tokens
            municipality := municipality.1
            municipalityGroup := municipality.1.bind fun name => municipalityGroups.lookup name
            subzone :=
              truthy (resolveSubzone (splitLocationSegments value) tokens municipality) }

def getSharedLocationTokenCount (requestLocation workerLocation : ParsedLocation) : Nat :=
  (requestLocation.tokens.dedup.filter fun token => token ∈ workerLocation.tokens).length

/-! ## The match -/

inductive RecommendationProximityTier where
  | sameZone | nearbyZone | nearbyArea | broaderArea | locationPending
  deriving DecidableEq, Repr

structure LocationMatch where
  score : Nat
  tier : RecommendationProximityTier
  label : String
  deriving DecidableEq, Repr

def sameZone : LocationMatch := ⟨4, .sameZone, "Mesma zona"⟩

def sameCity : LocationMatch := ⟨3, .nearbyZone, "Mesma cidade"⟩

/-- Both names are known and equal. -/
def agree (left right : Option String) : Prop :=
  left.isSome ∧ left = right

instance (left right : Option String) : Decidable (agree left right) :=
  inferInstanceAs (Decidable (left.isSome ∧ left = right))

def matchParsed (parsedRequest parsedWorker : ParsedLocation) : LocationMatch :=
  if parsedRequest.normalized = parsedWorker.normalized then
    sameZone
  else if agree parsedRequest.municipality parsedWorker.municipality then
    if agree parsedRequest.subzone parsedWorker.subzone then sameZone else sameCity
  else if agree parsedRequest.municipalityGroup parsedWorker.municipalityGroup then
    ⟨2, .nearbyArea, "Área próxima"⟩
  else
    let sharedTokens := getSharedLocationTokenCount parsedRequest parsedWorker
    if 2 ≤ sharedTokens then ⟨2, .nearbyArea, "Área próxima"⟩
    else if 1 ≤ sharedTokens then ⟨1, .broaderArea, "Correspondência parcial"⟩
    else ⟨0, .broaderArea, "Mais amplo"⟩

def buildLocationMatch (requestLocation workerLocation : Option String) : LocationMatch :=
  match parseLocation requestLocation, parseLocation workerLocation with
  | some parsedRequest, some parsedWorker => matchParsed parsedRequest parsedWorker
  | _, _ => ⟨0, .locationPending, "Localização por confirmar"⟩

/-! ## Words -/

/-- A blank ends a word. -/
theorem wordsOf_append_blank (left right : List Char) :
    wordsOf (left ++ ' ' :: right) = wordsOf left ++ wordsOf right := by
  rw [wordsOf, List.splitOn_append_cons_self, List.map_append, List.filter_append]
  rfl

theorem solid_of_mem_wordsOf {text : List Char} {word : String} (member : word ∈ wordsOf text) :
    ' ' ∉ word.toList ∧ word ≠ "" := by
  have parts := List.mem_filter.mp member
  obtain ⟨piece, cut, rfl⟩ := List.mem_map.mp parts.1
  rw [String.toList_ofList]
  exact ⟨notMem_of_mem_splitOn cut, of_decide_eq_true parts.2⟩

/-- Splitting joined words at the blanks gives the words again. -/
theorem splitWords_joinWords {words : List String} (nonempty : words ≠ [])
    (solid : ∀ word ∈ words, ' ' ∉ word.toList) : splitWords (joinWords words) = words := by
  have pieces : ∀ piece ∈ words.map String.toList, ' ' ∉ piece := by
    intro piece member
    obtain ⟨word, listed, rfl⟩ := List.mem_map.mp member
    exact solid word listed
  have some_piece : words.map String.toList ≠ [] := by
    simpa using nonempty
  rw [splitWords, joinWords, String.toList_ofList, List.splitOn_intercalate _ pieces some_piece,
    List.map_map]
  have identity : String.ofList ∘ String.toList = id := by
    funext text
    exact String.ofList_toList
  rw [identity, List.map_id]

theorem normalizeText_eq_empty {value : String} :
    normalizeText value = "" ↔ wordsOf (value.toList.flatMap foldChar) = [] := by
  constructor
  · intro empty
    by_contra present
    obtain ⟨word, listed⟩ := List.exists_mem_of_ne_nil _ present
    have filled : word.toList ≠ [] := fun none =>
      (solid_of_mem_wordsOf listed).2 (String.toList_eq_nil_iff.mp none)
    obtain ⟨c, member⟩ := List.exists_mem_of_ne_nil _ filled
    have inside : c ∈ (normalizeText value).toList := by
      rw [normalizeText, joinWords, String.toList_ofList]
      exact mem_intercalate (List.mem_map_of_mem listed) member
    rw [empty] at inside
    cases inside
  · intro none
    rw [normalizeText, none]
    rfl

/-- The tokens of a normalised text are words of the text. -/
theorem tokens_normalizeText (value : String) :
    getLocationTokensFromNormalized (normalizeText value) =
      (wordsOf (value.toList.flatMap foldChar)).filter isLocationToken := by
  by_cases empty : wordsOf (value.toList.flatMap foldChar) = []
  · rw [getLocationTokensFromNormalized, normalizeText, empty]
    rfl
  · rw [getLocationTokensFromNormalized, normalizeText,
      splitWords_joinWords empty fun word member => (solid_of_mem_wordsOf member).1]

/-! ## Segments -/

theorem accentedLetters_nonAscii :
    (accentedLetters.all fun entry => entry.2.all fun letter => 0x80 ≤ letter.toNat) = true := by
  decide +kernel

theorem foldChar_of_separator {c : Char} (separator : isSegmentSeparator c = true) :
    foldChar c = [' '] := by
  have members : c ∈ ['-', ',', ';', '/', '|'] := List.contains_iff_mem.mp separator
  have symbols : (['-', ',', ';', '/', '|'].all fun symbol => !isCombiningMark symbol &&
      !isLetterOrDigit symbol.toLower && symbol.toNat < 0x80) = true := by
    decide
  have plain := List.all_eq_true.mp symbols c members
  simp only [Bool.and_eq_true, Bool.not_eq_true', decide_eq_true_eq] at plain
  have ⟨⟨mark, letter⟩, ascii⟩ := plain
  have missing : (accentedLetters.find? fun entry => entry.2.contains c) = none := by
    apply List.find?_eq_none.mpr
    intro entry listed contained
    have letters := List.all_eq_true.mp accentedLetters_nonAscii entry listed
    have bound := List.all_eq_true.mp letters c (List.contains_iff_mem.mp contained)
    have high := of_decide_eq_true bound
    omega
  rw [foldChar, mark, letter, missing]
  rfl

/-- The words of a text are those of its segments. -/
theorem wordsOf_segments (text before : List Char) :
    ∃ first rest, text.splitOnP isSegmentSeparator = first :: rest ∧
      wordsOf (before ++ text.flatMap foldChar) =
        wordsOf (before ++ first.flatMap foldChar) ++
          rest.flatMap fun segment => wordsOf (segment.flatMap foldChar) := by
  induction text generalizing before with
  | nil =>
      exact ⟨[], [], rfl, by simp⟩
  | cons c text inductionHypothesis =>
      rw [List.splitOnP_cons_eq_if_modifyHead]
      by_cases separator : isSegmentSeparator c = true
      · obtain ⟨first, rest, pieces, words⟩ := inductionHypothesis []
        refine ⟨[], first :: rest, by rw [if_pos separator, pieces], ?_⟩
        rw [List.flatMap_cons, foldChar_of_separator separator, List.singleton_append,
          wordsOf_append_blank, List.flatMap_cons, List.flatMap_nil, List.append_nil]
        rw [List.nil_append, List.nil_append] at words
        rw [words]
      · obtain ⟨first, rest, pieces, words⟩ := inductionHypothesis (before ++ foldChar c)
        refine ⟨c :: first, rest, by rw [if_neg separator, pieces]; rfl, ?_⟩
        rw [List.flatMap_cons, List.flatMap_cons, ← List.append_assoc, ← List.append_assoc]
        exact words

/-- The tokens of the first segment are the first tokens of the text. -/
theorem firstSegmentTokens_prefix (value : String) :
    firstSegmentTokens value <+: getLocationTokensFromNormalized (normalizeText value) := by
  obtain ⟨first, rest, pieces, words⟩ := wordsOf_segments value.toList []
  rw [List.nil_append, List.nil_append] at words
  have all : wordsOf (value.toList.flatMap foldChar) =
      (value.toList.splitOnP isSegmentSeparator).flatMap fun segment =>
        wordsOf (segment.flatMap foldChar) := by
    rw [pieces, words, List.flatMap_cons]
  rw [tokens_normalizeText, all, firstSegmentTokens, splitLocationSegments]
  generalize value.toList.splitOnP isSegmentSeparator = segments
  induction segments with
  | nil =>
      exact List.nil_prefix
  | cons segment segments inductionHypothesis =>
      rw [List.flatMap_cons, List.map_cons]
      by_cases empty : normalizeText (String.ofList segment) = ""
      · have none := normalizeText_eq_empty.mp empty
        rw [String.toList_ofList] at none
        rw [List.filter_cons_of_neg (by simpa using empty), none, List.nil_append]
        exact inductionHypothesis
      · rw [List.filter_cons_of_pos (by simpa using empty)]
        dsimp only
        rw [tokens_normalizeText, String.toList_ofList, List.filter_append]
        exact List.prefix_append _ _

/-! ## Municipalities -/

theorem joinWords_append {left right : List String} (leftFilled : left ≠ [])
    (rightFilled : right ≠ []) :
    (joinWords (left ++ right)).toList =
      (joinWords left).toList ++ ' ' :: (joinWords right).toList := by
  induction left with
  | nil =>
      exact absurd rfl leftFilled
  | cons word left inductionHypothesis =>
      cases left with
      | nil =>
          cases right with
          | nil =>
              exact absurd rfl rightFilled
          | cons next right =>
              simp [joinWords]
      | cons next left =>
          have later := inductionHypothesis (List.cons_ne_nil _ _)
          simp only [joinWords, String.toList_ofList, List.cons_append, List.map_cons,
            List.intercalate_cons_cons, List.append_assoc] at later ⊢
          rw [later]

/-- No municipality is the beginning of another one. -/
theorem knownMunicipalities_separate :
    ∀ name ∈ knownMunicipalities, ∀ other ∈ knownMunicipalities,
      ¬ name.toList ++ [' '] <+: other.toList := by
  decide +kernel

theorem span_unique {tokens : List String} {span other : Nat} (positive : 0 < span)
    (longer : span < other) (within : other ≤ tokens.length)
    (known : joinWords (tokens.take span) ∈ knownMunicipalities) :
    joinWords (tokens.take other) ∉ knownMunicipalities := by
  intro otherKnown
  have divided : tokens.take other = tokens.take span ++ (tokens.take other).drop span := by
    have whole := List.take_append_drop span (tokens.take other)
    rw [List.take_take, Nat.min_eq_left (Nat.le_of_lt longer)] at whole
    exact whole.symm
  have first : tokens.take span ≠ [] := by
    intro none
    have length := congrArg List.length none
    rw [List.length_take, List.length_nil] at length
    omega
  have second : (tokens.take other).drop span ≠ [] := by
    intro none
    have length := congrArg List.length none
    rw [List.length_drop, List.length_take, List.length_nil] at length
    omega
  apply knownMunicipalities_separate _ known _ otherKnown
  rw [divided, joinWords_append first second]
  exact ⟨(joinWords ((tokens.take other).drop span)).toList, by simp⟩

/-- Tokens which begin with a municipality are resolved to it. -/
theorem resolveKnownMunicipality_eq {tokens : List String} {span : Nat} (positive : 0 < span)
    (within : span ≤ min tokens.length 3)
    (known : joinWords (tokens.take span) ∈ knownMunicipalities) :
    resolveKnownMunicipality tokens = (some (joinWords (tokens.take span)), span) := by
  have listed : span ∈ (List.range' 1 (min tokens.length 3)).reverse := by
    rw [List.mem_reverse, List.mem_range'_1]
    omega
  unfold resolveKnownMunicipality
  cases found : (List.range' 1 (min tokens.length 3)).reverse.find? fun span =>
      knownMunicipalities.contains (joinWords (tokens.take span)) with
  | none =>
      have missed := List.find?_eq_none.mp found span listed
      exact absurd (List.contains_iff_mem.mpr known) missed
  | some other =>
      have accepted := List.find?_some found
      have otherKnown := List.contains_iff_mem.mp accepted
      have member := List.mem_of_find?_eq_some found
      rw [List.mem_reverse, List.mem_range'_1] at member
      have same : other = span := by
        rcases Nat.lt_trichotomy other span with shorter | same | longer
        · exact absurd known (span_unique (by omega) shorter (by omega) otherKnown)
        · exact same
        · exact absurd otherKnown (span_unique positive longer (by omega) known)
      rw [same]

theorem resolveKnownMunicipality_isSome {tokens : List String}
    (resolved : (resolveKnownMunicipality tokens).1.isSome = true) :
    ∃ span, 0 < span ∧ span ≤ min tokens.length 3 ∧
      joinWords (tokens.take span) ∈ knownMunicipalities := by
  unfold resolveKnownMunicipality at resolved
  cases found : (List.range' 1 (min tokens.length 3)).reverse.find? fun span =>
      knownMunicipalities.contains (joinWords (tokens.take span)) with
  | none =>
      rw [found] at resolved
      cases resolved
  | some span =>
      have member := List.mem_of_find?_eq_some found
      rw [List.mem_reverse, List.mem_range'_1] at member
      have accepted := List.find?_some found
      exact ⟨span, by omega, by omega, List.contains_iff_mem.mp accepted⟩

/-- The first segment names no other municipality than the whole text. -/
theorem resolveMunicipality_eq (value : String) :
    resolveMunicipality value (getLocationTokensFromNormalized (normalizeText value)) =
      resolveKnownMunicipality (getLocationTokensFromNormalized (normalizeText value)) := by
  obtain ⟨rest, tokens⟩ := firstSegmentTokens_prefix value
  by_cases resolved : (resolveKnownMunicipality (firstSegmentTokens value)).1.isSome = true
  · obtain ⟨span, positive, within, known⟩ := resolveKnownMunicipality_isSome resolved
    have same : (firstSegmentTokens value ++ rest).take span =
        (firstSegmentTokens value).take span :=
      List.take_append_of_le_length (by omega)
    have longer : (firstSegmentTokens value).length ≤
        (firstSegmentTokens value ++ rest).length := by
      rw [List.length_append]
      omega
    rw [resolveMunicipality, if_pos resolved, resolveKnownMunicipality_eq positive within known,
      ← tokens, resolveKnownMunicipality_eq positive (by omega) (same ▸ known), same]
  · rw [resolveMunicipality, if_neg resolved]

/-- What the normalised text decides; only the subzone depends on the segments. -/
def ParsedLocation.ofNormalized (normalized : String) (segments : List String) :
    ParsedLocation :=
  let tokens := getLocationTokensFromNormalized normalized
  let municipality := resolveKnownMunicipality tokens
  { normalized := normalized
    tokens := tokens
    municipality := municipality.1
    municipalityGroup := municipality.1.bind fun name => municipalityGroups.lookup name
    subzone := truthy (resolveSubzone segments tokens municipality) }

theorem parseLocation_eq (value : String) :
    parseLocation (some value) =
      if normalizeText value = "" then none
      else some (.ofNormalized (normalizeText value) (splitLocationSegments value)) := by
  by_cases empty : value = ""
  · subst empty
    rfl
  · have present : truthy (some value) = some value := by
      simp [truthy, empty]
    simp only [parseLocation, present, resolveMunicipality_eq]
    rfl

/-! ## Symmetry -/

theorem agree_comm (left right : Option String) : agree left right ↔ agree right left := by
  constructor
  · rintro ⟨known, rfl⟩
    exact ⟨known, rfl⟩
  · rintro ⟨known, rfl⟩
    exact ⟨known, rfl⟩

theorem getSharedLocationTokenCount_comm (left right : ParsedLocation) :
    getSharedLocationTokenCount left right = getSharedLocationTokenCount right left := by
  unfold getSharedLocationTokenCount
  apply List.Perm.length_eq
  apply (List.perm_ext_iff_of_nodup ((List.nodup_dedup _).filter _)
    ((List.nodup_dedup _).filter _)).mpr
  intro token
  simp only [List.mem_filter, List.mem_dedup, decide_eq_true_eq]
  exact and_comm

theorem matchParsed_comm (left right : ParsedLocation) :
    matchParsed left right = matchParsed right left := by
  simp only [matchParsed, getSharedLocationTokenCount_comm left right,
    agree_comm left.municipality right.municipality,
    agree_comm left.municipalityGroup right.municipalityGroup,
    agree_comm left.subzone right.subzone]
  by_cases same : left.normalized = right.normalized
  · rw [if_pos same, if_pos same.symm]
  · rw [if_neg same, if_neg (Ne.symm same)]

/-- The match does not depend on which of the two locations is the request's. -/
theorem buildLocationMatch_comm (requestLocation workerLocation : Option String) :
    buildLocationMatch requestLocation workerLocation =
      buildLocationMatch workerLocation requestLocation := by
  unfold buildLocationMatch
  cases parseLocation requestLocation with
  | none =>
      cases parseLocation workerLocation <;> rfl
  | some left =>
      cases parseLocation workerLocation with
      | none =>
          rfl
      | some right =>
          exact matchParsed_comm left right

/-! ## Congruence -/

/-- Two locations with different texts and the same known municipality. -/
def MeetInCity (requestLocation workerLocation : Option String) : Prop :=
  ∃ left right, parseLocation requestLocation = some left ∧
    parseLocation workerLocation = some right ∧ left.normalized ≠ right.normalized ∧
      agree left.municipality right.municipality

theorem matchParsed_of_apart {normalized : String} {first second : List String}
    {right : ParsedLocation}
    (apart : ¬ ((ParsedLocation.ofNormalized normalized first).normalized ≠ right.normalized ∧
      agree (ParsedLocation.ofNormalized normalized first).municipality right.municipality)) :
    matchParsed (.ofNormalized normalized first) right =
      matchParsed (.ofNormalized normalized second) right := by
  by_cases same : normalized = right.normalized
  · have left : matchParsed (.ofNormalized normalized first) right = sameZone := if_pos same
    have other : matchParsed (.ofNormalized normalized second) right = sameZone := if_pos same
    rw [left, other]
  · have strangers : ¬ agree (ParsedLocation.ofNormalized normalized first).municipality
        right.municipality := fun meets => apart ⟨same, meets⟩
    have left : ¬ agree (ParsedLocation.ofNormalized normalized second).municipality
        right.municipality := strangers
    simp only [matchParsed, if_neg strangers, if_neg left]
    rfl

theorem matchParsed_of_agree {left right : ParsedLocation}
    (differ : left.normalized ≠ right.normalized)
    (meets : agree left.municipality right.municipality) :
    matchParsed left right = sameZone ∨ matchParsed left right = sameCity := by
  rw [matchParsed, if_neg differ, if_pos meets]
  split
  · exact .inl rfl
  · exact .inr rfl

/-- The match is symmetric.  Texts which are the same once normalised match alike, except
within a city, where the segments still tell the zone from the city. -/
theorem locationMatch_symmetric_congruent :
    (∀ a b, buildLocationMatch a b = buildLocationMatch b a) ∧
      ∀ (a a' : String) (b : Option String), normalizeText a = normalizeText a' →
        (¬ MeetInCity (some a) b ∨ splitLocationSegments a = splitLocationSegments a' →
          buildLocationMatch (some a) b = buildLocationMatch (some a') b) ∧
        (MeetInCity (some a) b → ∀ text ∈ [a, a'],
          buildLocationMatch (some text) b = sameZone ∨
            buildLocationMatch (some text) b = sameCity) := by
  refine ⟨buildLocationMatch_comm, ?_⟩
  intro a a' b same
  have first := parseLocation_eq a
  have second := parseLocation_eq a'
  rw [← same] at second
  by_cases empty : normalizeText a = ""
  · rw [if_pos empty] at first second
    constructor
    · intro _
      simp only [buildLocationMatch, first, second]
    · rintro ⟨left, right, parsed, _⟩
      rw [first] at parsed
      cases parsed
  · rw [if_neg empty] at first second
    cases worker : parseLocation b with
    | none =>
        constructor
        · intro _
          simp only [buildLocationMatch, first, second, worker]
        · rintro ⟨left, right, _, parsed, _⟩
          rw [worker] at parsed
          cases parsed
    | some right =>
        simp only [buildLocationMatch, first, second, worker]
        constructor
        · rintro (apart | segments)
          · exact matchParsed_of_apart fun meets => apart ⟨_, right, first, worker, meets⟩
          · rw [segments]
        · rintro ⟨left, other, parsed, found, differ, meets⟩ text member
          rw [first, Option.some.injEq] at parsed
          rw [worker, Option.some.injEq] at found
          subst parsed found
          simp only [List.mem_cons, List.not_mem_nil, or_false] at member
          rcases member with rfl | rfl
          · rw [first]
            exact matchParsed_of_agree differ meets
          · rw [second]
            exact matchParsed_of_agree differ meets

/-- A comma makes the difference between the zone and the city. -/
theorem comma_changes_match :
    ¬ ∀ (a a' : String) (b : Option String), normalizeText a = normalizeText a' →
      buildLocationMatch (some a) b = buildLocationMatch (some a') b := by
  intro same
  have differ := same "Av 24, Maputo" "Av 24 Maputo" (some "Rua 5, Maputo") (by decide +kernel)
  revert differ
  decide +kernel

end Tchuno.Web
