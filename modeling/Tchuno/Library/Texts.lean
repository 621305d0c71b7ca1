import Mathlib.Data.List.DropRight
import Mathlib.Data.List.TakeWhile
import Tchuno.Library.Ecma

/-!
# Facts about texts

What `splitAtLast?` and `trim` leave of a text, as decompositions of its characters.
-/

namespace Tchuno.Library.Ecma

/-! ## The last occurrence of a character -/

section Separators

variable {α : Type}

/-- The first separator of a list divides it in one way only. -/
theorem append_cons_inj_of_notMem {separator : α} {left right before after : List α}
    (left_free : separator ∉ left) (right_free : separator ∉ right)
    (same : left ++ separator :: before = right ++ separator :: after) :
    left = right ∧ before = after := by
  induction left generalizing right with
  | nil =>
      cases right with
      | nil =>
          exact ⟨rfl, by simpa using same⟩
      | cons head tail =>
          have heads : separator = head := by simpa using congrArg List.head? same
          exact absurd (heads ▸ List.mem_cons_self) right_free
  | cons head tail inductionHypothesis =>
      cases right with
      | nil =>
          have heads : head = separator := by simpa using congrArg List.head? same
          exact absurd (heads ▸ List.mem_cons_self) left_free
      | cons other rest =>
          simp only [List.cons_append, List.cons.injEq] at same
          have tail_free : separator ∉ tail := fun member =>
            left_free (List.mem_cons_of_mem _ member)
          have rest_free : separator ∉ rest := fun member =>
            right_free (List.mem_cons_of_mem _ member)
          have split := inductionHypothesis tail_free rest_free same.2
          exact ⟨by rw [same.1, split.1], split.2⟩

theorem take_idxOf_append [DecidableEq α] {separator : α} {items : List α}
    (member : separator ∈ items) :
    items = items.take (items.idxOf separator) ++
      separator :: items.drop (items.idxOf separator + 1) := by
  induction items with
  | nil =>
      cases member
  | cons head tail inductionHypothesis =>
      by_cases same : head = separator
      · subst same
        simp
      · have later : separator ∈ tail := by
          cases member with
          | head =>
              exact absurd rfl same
          | tail _ later =>
              exact later
        rw [List.idxOf_cons_ne _ same]
        exact congrArg (List.cons head) (inductionHypothesis later)

theorem notMem_take_idxOf [DecidableEq α] (separator : α) (items : List α) :
    separator ∉ items.take (items.idxOf separator) := by
  induction items with
  | nil =>
      simp
  | cons head tail inductionHypothesis =>
      by_cases same : head = separator
      · subst same
        simp
      · rw [List.idxOf_cons_ne _ same, List.take_succ_cons]
        intro member
        cases member with
        | head =>
            exact same rfl
        | tail _ later =>
            exact inductionHypothesis later

theorem mem_intercalate {separator : List α} {pieces : List (List α)} {piece : List α} {c : α}
    (listed : piece ∈ pieces) (member : c ∈ piece) : c ∈ separator.intercalate pieces := by
  induction pieces with
  | nil =>
      cases listed
  | cons head tail inductionHypothesis =>
      cases tail with
      | nil =>
          rw [List.mem_singleton.mp listed] at member
          rw [List.intercalate_singleton]
          exact member
      | cons next rest =>
          rw [List.intercalate_cons_cons]
          rcases List.mem_cons.mp listed with rfl | later
          · exact List.mem_append_left _ (List.mem_append_left _ member)
          · exact List.mem_append_right _ (inductionHypothesis later)

theorem mem_of_mem_intercalate {separator : List α} {pieces : List (List α)} {c : α}
    (member : c ∈ separator.intercalate pieces) :
    c ∈ separator ∨ ∃ piece ∈ pieces, c ∈ piece := by
  induction pieces with
  | nil =>
      cases member
  | cons head tail inductionHypothesis =>
      cases tail with
      | nil =>
          rw [List.intercalate_singleton] at member
          exact .inr ⟨head, List.mem_cons_self, member⟩
      | cons next rest =>
          rw [List.intercalate_cons_cons] at member
          rcases List.mem_append.mp member with front | later
          · rcases List.mem_append.mp front with first | between
            · exact .inr ⟨head, List.mem_cons_self, first⟩
            · exact .inl between
          · rcases inductionHypothesis later with between | ⟨piece, listed, inside⟩
            · exact .inl between
            · exact .inr ⟨piece, List.mem_cons_of_mem _ listed, inside⟩


/-- The pieces of a list hold what is in it, but no separators. -/
theorem mem_and_not_of_mem_splitOnP {isSeparator : α → Bool} {items piece : List α} {c : α}
    (cut : piece ∈ items.splitOnP isSeparator) (member : c ∈ piece) :
    c ∈ items ∧ isSeparator c = false := by
  induction items generalizing piece with
  | nil =>
      rw [List.splitOnP_nil] at cut
      rw [List.mem_singleton.mp cut] at member
      cases member
  | cons head tail inductionHypothesis =>
      rw [List.splitOnP_cons_eq_if_modifyHead] at cut
      cases ends : isSeparator head with
      | true =>
          rw [if_pos ends] at cut
          rcases List.mem_cons.mp cut with rfl | later
          · cases member
          · have ⟨inside, plain⟩ := inductionHypothesis later member
            exact ⟨List.mem_cons_of_mem _ inside, plain⟩
      | false =>
          rw [if_neg (by simp [ends])] at cut
          cases pieces : tail.splitOnP isSeparator with
          | nil =>
              rw [pieces] at cut
              cases cut
          | cons first rest =>
              rw [pieces] at cut inductionHypothesis
              rcases List.mem_cons.mp cut with rfl | later
              · rcases List.mem_cons.mp member with rfl | inside
                · exact ⟨List.mem_cons_self, ends⟩
                · have ⟨listed, plain⟩ := inductionHypothesis List.mem_cons_self inside
                  exact ⟨List.mem_cons_of_mem _ listed, plain⟩
              · have ⟨listed, plain⟩ :=
                  inductionHypothesis (List.mem_cons_of_mem _ later) member
                exact ⟨List.mem_cons_of_mem _ listed, plain⟩

theorem mem_of_mem_splitOn [DecidableEq α] {separator : α} {items piece : List α} {c : α}
    (cut : piece ∈ items.splitOn separator) (member : c ∈ piece) : c ∈ items := by
  rw [List.splitOn_eq_splitOnP] at cut
  exact (mem_and_not_of_mem_splitOnP cut member).1

/-- No piece holds the separator. -/
theorem notMem_of_mem_splitOn [DecidableEq α] {separator : α} {items piece : List α}
    (cut : piece ∈ items.splitOn separator) : separator ∉ piece := by
  rw [List.splitOn_eq_splitOnP] at cut
  intro member
  have differs := (mem_and_not_of_mem_splitOnP cut member).2
  exact absurd rfl (beq_eq_false_iff_ne.mp differs)

end Separators

theorem splitAtLast?_eq_some {separator : Char} {text stem extension : String} :
    splitAtLast? separator text = some (stem, extension) ↔
      text.toList = stem.toList ++ separator :: extension.toList ∧
        separator ∉ extension.toList := by
  have divided : ∀ {reversed : List Char}, separator ∈ reversed →
      (reversed.reverse = (reversed.drop (reversed.idxOf separator + 1)).reverse ++
        separator :: (reversed.take (reversed.idxOf separator)).reverse) := by
    intro reversed member
    have parts := congrArg List.reverse (take_idxOf_append member)
    simpa using parts
  unfold splitAtLast?
  constructor
  · intro found
    by_cases member : separator ∈ text.toList.reverse
    · simp only [if_pos member, Option.some.injEq, Prod.mk.injEq] at found
      obtain ⟨rfl, rfl⟩ := found
      have parts := divided member
      rw [List.reverse_reverse] at parts
      have free := notMem_take_idxOf separator text.toList.reverse
      exact ⟨by simpa using parts, by simpa using free⟩
    · simp only [if_neg member] at found
      cases found
  · rintro ⟨parts, free⟩
    have member : separator ∈ text.toList.reverse := by
      rw [parts]
      simp
    have own := congrArg List.reverse (divided member)
    rw [List.reverse_reverse, parts] at own
    simp only [List.reverse_append, List.reverse_cons, List.reverse_reverse,
      List.append_assoc, List.singleton_append] at own
    have own_free := notMem_take_idxOf separator text.toList.reverse
    rw [parts] at own_free
    simp only [List.reverse_append, List.reverse_cons, List.append_assoc,
      List.singleton_append] at own_free
    have split := append_cons_inj_of_notMem (by simpa using free) own_free own
    simp only [if_pos member, Option.some.injEq, Prod.mk.injEq]
    rw [parts]
    simp only [List.reverse_append, List.reverse_cons, List.append_assoc,
      List.singleton_append]
    rw [← split.1, ← split.2]
    simp

theorem splitAtLast?_eq_none {separator : Char} {text : String} :
    splitAtLast? separator text = none ↔ separator ∉ text.toList := by
  simp [splitAtLast?]

/-! ## Lengths -/

/-- `text.length`, in UTF-16 code units. -/
def utf16Length (text : String) : Nat :=
  (text.toList.map fun c => if c.toNat < 0x10000 then 1 else 2).sum

/-! ## White space at the ends -/

/-- `trim` takes white space from both ends and nothing else. -/
theorem trim_decomposition (text : String) :
    ∃ front back : List Char, text.toList = front ++ (trim text).toList ++ back ∧
      (∀ c ∈ front, isWhiteSpace c = true) ∧ ∀ c ∈ back, isWhiteSpace c = true := by
  have cut_front := @List.takeWhile_append_dropWhile _ isWhiteSpace text.toList
  have cut_back := @List.takeWhile_append_dropWhile _ isWhiteSpace
    (text.toList.dropWhile isWhiteSpace).reverse
  have kept := congrArg List.reverse cut_back
  rw [List.reverse_append, List.reverse_reverse] at kept
  refine ⟨text.toList.takeWhile isWhiteSpace,
    ((text.toList.dropWhile isWhiteSpace).reverse.takeWhile isWhiteSpace).reverse,
    ?_, fun _ member => List.mem_takeWhile_imp member, ?_⟩
  · unfold trim
    rw [String.toList_ofList, List.append_assoc, kept, cut_front]
  · intro c member
    exact List.mem_takeWhile_imp (List.mem_reverse.mp member)

/-- Text without white space is not trimmed. -/
theorem trim_of_forall {text : String} (dense : ∀ c ∈ text.toList, isWhiteSpace c = false) :
    trim text = text := by
  have keep : ∀ {items : List Char}, (∀ c ∈ items, isWhiteSpace c = false) →
      items.dropWhile isWhiteSpace = items := by
    intro items dense
    cases items with
    | nil =>
        rfl
    | cons head tail =>
        exact List.dropWhile_cons_of_neg (by simp [dense head List.mem_cons_self])
  have reversed : ∀ c ∈ text.toList.reverse, isWhiteSpace c = false :=
    fun c member => dense c (List.mem_reverse.mp member)
  rw [trim, keep dense, keep reversed, List.reverse_reverse, String.ofList_toList]

/-! ## Stripping both ends -/

/-- Take the accepted characters from both ends. -/
def strip (accept : Char → Bool) (text : List Char) : List Char :=
  (text.dropWhile accept).rdropWhile accept

theorem toList_trim (text : String) : (trim text).toList = strip isWhiteSpace text.toList :=
  String.toList_ofList

theorem within_strip (accept : Char → Bool) (text : List Char) : strip accept text <:+: text :=
  (List.rdropWhile_prefix _ _).isInfix.trans (List.dropWhile_suffix _).isInfix

theorem rejects_head?_dropWhile {accept : Char → Bool} {text : List Char} {c : Char}
    (first : (text.dropWhile accept).head? = some c) : accept c = false := by
  have kept := List.head?_dropWhile_not accept text
  rw [first] at kept
  exact kept

theorem rejects_head?_strip {accept : Char → Bool} {text : List Char} {c : Char}
    (first : (strip accept text).head? = some c) : accept c = false := by
  obtain ⟨cut, parts⟩ := List.rdropWhile_prefix accept (text.dropWhile accept)
  apply @rejects_head?_dropWhile accept text
  rw [← parts, List.head?_append]
  exact Option.or_eq_some_iff.mpr (.inl first)

theorem rejects_getLast?_strip {accept : Char → Bool} {text : List Char} {c : Char}
    (last : (strip accept text).getLast? = some c) : accept c = false := by
  rw [strip, List.rdropWhile, List.getLast?_reverse] at last
  exact rejects_head?_dropWhile last

theorem strip_of_ends {accept : Char → Bool} {text : List Char}
    (starts : ∀ c, text.head? = some c → accept c = false)
    (ends : ∀ c, text.getLast? = some c → accept c = false) : strip accept text = text := by
  have front : text.dropWhile accept = text := by
    cases text with
    | nil => rfl
    | cons c rest => exact List.dropWhile_cons_of_neg (by simp [starts c rfl])
  rw [strip, front, List.rdropWhile_eq_self_iff]
  intro filled
  rw [ends _ (List.getLast?_eq_getLast_of_ne_nil filled)]
  exact Bool.false_ne_true

theorem trim_trim (text : String) : trim (trim text) = trim text := by
  apply String.toList_injective
  rw [toList_trim, toList_trim]
  exact strip_of_ends (fun _ => rejects_head?_strip) fun _ => rejects_getLast?_strip

end Tchuno.Library.Ecma
