import Tchuno.Library.Texts
import Tchuno.Payments.Schema

/-!
# The keys of platform settings

A key is checked before it is cut to 80 characters, so that a cut can end it in a
separator and give two settings one row.
-/

namespace Tchuno.AdminOps

open Payments Tchuno.Library.Ecma

/-! ## The grammar -/

/-- `[a-z0-9]` -/
def isKeyCharacter (c : Char) : Bool :=
  ('a' ≤ c && c ≤ 'z') || ('0' ≤ c && c ≤ '9')

/-- `[._-]` -/
def isKeySeparator (c : Char) : Bool :=
  c = '.' || c = '_' || c = '-'

/-- What may follow in a key; `inside` after a character which is no separator. -/
def matchesKeyFrom (inside : Bool) : List Char → Bool
  | [] => inside
  | c :: rest =>
      if isKeyCharacter c then matchesKeyFrom true rest
      else inside && isKeySeparator c && matchesKeyFrom false rest

/-- `/^[a-z0-9]+(?:[._-][a-z0-9]+)*$/` -/
def matchesSettingKey (text : String) : Bool :=
  matchesKeyFrom false text.toList

/-- The trimmed lower-case form of an input. -/
def settingForm (value : String) : String :=
  toLowerCase (trim value)

/-- `key.slice(0, 80)`; the characters of a key are single code units. -/
def cutKey (key : String) : String :=
  String.ofList (key.toList.take 80)

def normalizeSettingKey (value : String) : Except ApiError String :=
  let normalized := settingForm value
  if matchesSettingKey normalized then
    .ok (cutKey normalized)
  else
    .error (.badRequest
      "Chave de configuração inválida. Usa letras minúsculas, números, \".\", \"_\" ou \"-\".")

/-- `upsertPlatformSetting`, for the rows alone. -/
def upsertPlatformSetting {Value : Type} (settings : String → Option Value) (key : String)
    (value : Value) : Except ApiError (String → Option Value) := do
  let settingKey ← normalizeSettingKey key
  return Function.update settings settingKey (some value)

/-! ## Words of the grammar -/

theorem keyCharacter_or_separator {c : Char} {text : List Char} (member : c ∈ text)
    {inside : Bool} (word : matchesKeyFrom inside text = true) :
    isKeyCharacter c = true ∨ isKeySeparator c = true := by
  induction text generalizing inside with
  | nil =>
      cases member
  | cons head tail inductionHypothesis =>
      rw [matchesKeyFrom] at word
      by_cases letter : isKeyCharacter head = true
      · rw [if_pos letter] at word
        rcases List.mem_cons.mp member with rfl | later
        · exact .inl letter
        · exact inductionHypothesis later word
      · rw [if_neg letter] at word
        simp only [Bool.and_eq_true] at word
        rcases List.mem_cons.mp member with rfl | later
        · exact .inr word.1.2
        · exact inductionHypothesis later word.2

/-- A word stays one when a letter or a digit is added. -/
theorem matchesKeyFrom_append {c : Char} (letter : isKeyCharacter c = true) {inside : Bool}
    {text : List Char} (word : matchesKeyFrom inside text = true) :
    matchesKeyFrom inside (text ++ [c]) = true := by
  induction text generalizing inside with
  | nil =>
      rw [List.nil_append, matchesKeyFrom, if_pos letter]
      rfl
  | cons head tail inductionHypothesis =>
      rw [List.cons_append, matchesKeyFrom]
      rw [matchesKeyFrom] at word
      by_cases first : isKeyCharacter head = true
      · rw [if_pos first] at word ⊢
        exact inductionHypothesis word
      · rw [if_neg first] at word ⊢
        simp only [Bool.and_eq_true] at word ⊢
        exact ⟨word.1, inductionHypothesis word.2⟩

theorem key_bounds {c : Char} (plain : isKeyCharacter c = true ∨ isKeySeparator c = true) :
    (0x2D ≤ c.toNat ∧ c.toNat ≤ 0x39) ∨ c.toNat = 0x5F ∨
      (0x61 ≤ c.toNat ∧ c.toNat ≤ 0x7A) := by
  have order : ∀ first last : Char, first ≤ last ↔ first.toNat ≤ last.toNat :=
    fun _ _ => Iff.rfl
  simp only [isKeyCharacter, isKeySeparator, Bool.or_eq_true, Bool.and_eq_true,
    decide_eq_true_eq, order] at plain
  rcases plain with (lower | digit) | (rfl | rfl) | rfl
  · exact .inr (.inr lower)
  · have zero : '0'.toNat = 0x30 := rfl
    have nine : '9'.toNat = 0x39 := rfl
    omega
  · decide
  · decide
  · decide

theorem toLower_of_bounds {c : Char} (bounds : c.toNat < 0x41 ∨ 0x5A < c.toNat) :
    c.toLower = c := by
  apply dif_neg
  intro upper
  have low : 0x41 ≤ c.toNat := upper.1
  have high : c.toNat ≤ 0x5A := upper.2
  omega

/-- The characters of a key are neither trimmed nor changed. -/
theorem plain_of_key {c : Char} (plain : isKeyCharacter c = true ∨ isKeySeparator c = true) :
    isWhiteSpace c = false ∧ lowerCaseChar c = [c] := by
  have bounds := key_bounds plain
  constructor
  · simp only [isWhiteSpace, Bool.or_eq_false_iff, decide_eq_false_iff_not, List.mem_cons,
      List.not_mem_nil, or_false, Bool.and_eq_false_iff]
    omega
  · have unchanged : c.toLower = c := toLower_of_bounds (by omega)
    unfold lowerCaseChar
    split
    · omega
    · omega
    · rw [unchanged]

/-- A word of the grammar is its own form. -/
theorem settingForm_of_matches {text : String} (word : matchesSettingKey text = true) :
    settingForm text = text := by
  have plain : ∀ c ∈ text.toList, isWhiteSpace c = false ∧ lowerCaseChar c = [c] :=
    fun c member => plain_of_key (keyCharacter_or_separator member word)
  have lower : text.toList.flatMap lowerCaseChar = text.toList := by
    have single : text.toList.flatMap lowerCaseChar = text.toList.flatMap fun c => [c] :=
      List.flatMap_congr fun c member => (plain c member).2
    rw [single, List.flatMap_singleton']
  rw [settingForm, trim_of_forall fun c member => (plain c member).1, toLowerCase, lower,
    String.ofList_toList]

/-! ## Normalised keys -/

theorem normalizeSettingKey_eq_ok {value key : String} :
    normalizeSettingKey value = .ok key ↔
      matchesSettingKey (settingForm value) = true ∧ cutKey (settingForm value) = key := by
  unfold normalizeSettingKey
  dsimp only
  split <;> rename_i word <;> simp [word]

theorem cutKey_of_length_le {key : String} (short : key.length ≤ 80) : cutKey key = key := by
  rw [← String.length_toList] at short
  rw [cutKey, List.take_of_length_le short, String.ofList_toList]

theorem length_cutKey_of_le {key : String} (long : 80 ≤ key.length) :
    (cutKey key).toList.length = 80 := by
  rw [← String.length_toList] at long
  rw [cutKey, String.toList_ofList, List.length_take]
  omega

/-- What is cut to fewer than 80 characters was not cut. -/
theorem eq_of_cutKey_eq {left right : String} (short : left.length < 80)
    (same : cutKey right = left) : right = left := by
  by_cases long : 80 ≤ right.length
  · have length := length_cutKey_of_le long
    rw [same, String.length_toList] at length
    omega
  · rw [← same, cutKey_of_length_le (by omega)]

/-- A result is a key of its own, and no input with another form has it. -/
def NamesOneSetting (value : String) : Prop :=
  ∀ key, normalizeSettingKey value = .ok key →
    matchesSettingKey key = true ∧ key.length ≤ 80 ∧ normalizeSettingKey key = .ok key ∧
      ∀ other, normalizeSettingKey other = .ok key → settingForm other = settingForm value

/-- A full key with one more letter is cut to the key. -/
theorem normalizeSettingKey_append {key : String} {c : Char}
    (word : matchesSettingKey key = true) (full : key.toList.length = 80)
    (letter : isKeyCharacter c = true) :
    normalizeSettingKey (String.ofList (key.toList ++ [c])) = .ok key ∧
      settingForm (String.ofList (key.toList ++ [c])) = String.ofList (key.toList ++ [c]) := by
  have longer : matchesSettingKey (String.ofList (key.toList ++ [c])) = true := by
    rw [matchesSettingKey, String.toList_ofList]
    exact matchesKeyFrom_append letter word
  have form := settingForm_of_matches longer
  refine ⟨normalizeSettingKey_eq_ok.mpr ⟨by rw [form]; exact longer, ?_⟩, form⟩
  rw [form, cutKey, String.toList_ofList, List.take_left' full, String.ofList_toList]

/-- An accepted input names one setting exactly when its form is shorter than the cut. -/
theorem namesOneSetting_iff (value : String) :
    NamesOneSetting value ↔
      (matchesSettingKey (settingForm value) = true → (settingForm value).length < 80) := by
  constructor
  · intro single word
    by_contra long
    have accepted : normalizeSettingKey value = .ok (cutKey (settingForm value)) :=
      normalizeSettingKey_eq_ok.mpr ⟨word, rfl⟩
    have ⟨cutWord, _, _, only⟩ := single _ accepted
    have full := length_cutKey_of_le (Nat.le_of_not_lt long)
    have first := normalizeSettingKey_append cutWord full (by decide : isKeyCharacter 'a' = true)
    have second := normalizeSettingKey_append cutWord full (by decide : isKeyCharacter 'b' = true)
    have same := (only _ first.1).trans (only _ second.1).symm
    rw [first.2, second.2] at same
    have texts := congrArg String.toList same
    simp at texts
  · intro short key accepted
    have ⟨word, cut⟩ := normalizeSettingKey_eq_ok.mp accepted
    have whole : settingForm value = key := by
      rw [← cut, cutKey_of_length_le (Nat.le_of_lt (short word))]
    have bound : key.length < 80 := whole ▸ short word
    rw [whole] at word
    have form := settingForm_of_matches word
    refine ⟨word, Nat.le_of_lt bound, ?_, ?_⟩
    · apply normalizeSettingKey_eq_ok.mpr
      rw [form]
      exact ⟨word, cutKey_of_length_le (Nat.le_of_lt bound)⟩
    · intro other accepted
      have same := (normalizeSettingKey_eq_ok.mp accepted).2
      rw [whole]
      exact eq_of_cutKey_eq bound same

/-- A key of 81 characters is cut to that of another setting. -/
theorem long_keys_collide : ¬ ∀ value, NamesOneSetting value := by
  intro always
  have short := (namesOneSetting_iff (String.ofList (List.replicate 81 'a'))).mp (always _)
  revert short
  decide +kernel

end Tchuno.AdminOps
