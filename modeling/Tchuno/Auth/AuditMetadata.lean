import Mathlib.Data.List.Nodup
import Mathlib.Data.Rat.Defs
import Tchuno.Library.CodeUnits

/-!
# Sanitised audit metadata

`sanitizeMetadata` walks through a value, drops the entries with a sensitive key and
cuts what is too long.  What it returns is in a normal form which it leaves alone.
-/

namespace Tchuno.Auth

open Tchuno.Library

/-- A JSON value; the entries of an object are listed in the order of `Object.entries`. -/
inductive Metadata where
  | null
  | boolean (value : Bool)
  | number (value : ℚ)
  | string (text : JsString)
  | array (items : List Metadata)
  | object (entries : List (JsString × Metadata))

namespace Metadata

/-! ## The walk -/

def sensitiveMetadataKeys : List JsString :=
  ["password", "passwordhash", "token", "accesstoken", "refreshtoken", "authorization",
    "cookie"].map JsString.ofString

def isSensitive (key : JsString) : Bool :=
  sensitiveMetadataKeys.contains key.trim.toLowerCase

/-- `acc[key] = child`; under `__proto__` this sets the prototype and adds no entry. -/
def assign (acc : List (JsString × Metadata)) (key : JsString) (child : Metadata) :
    List (JsString × Metadata) :=
  if key = .ofString "__proto__" then
    acc
  else if key ∈ acc.map Prod.fst then
    acc.map fun entry => if entry.1 = key then (key, child) else entry
  else
    acc ++ [(key, child)]

/-- One turn of the loop over the entries of an object. -/
def addEntry (acc : List (JsString × Metadata)) (entry : JsString × Option Metadata) :
    List (JsString × Metadata) :=
  if isSensitive entry.1 then
    acc
  else
    match entry.2 with
    | none => acc
    | some child => assign acc entry.1 child

mutual

/-- The inner function of `sanitizeMetadata`; `none` is `undefined`. -/
def walk : Metadata → Option Metadata
  | .null => none
  | .string text => some (.string (text.cutTo 1024 (.ofString "...")))
  | .number value => some (.number value)
  | .boolean value => some (.boolean value)
  | .array items => some (.array (((walkItems items).take 50).filterMap id))
  | .object entries => some (.object ((walkEntries entries).foldl addEntry []))

def walkItems : List Metadata → List (Option Metadata)
  | [] => []
  | item :: rest => walk item :: walkItems rest

def walkEntries : List (JsString × Metadata) → List (JsString × Option Metadata)
  | [] => []
  | (key, raw) :: rest => (key, walk raw) :: walkEntries rest

end

/-- `!value` -/
def isFalsy : Metadata → Bool
  | .null => true
  | .boolean value => !value
  | .number value => value = 0
  | .string text => text = []
  | .array _ => false
  | .object _ => false

def isArray : Metadata → Bool
  | .array _ => true
  | _ => false

def sanitizeMetadata (value : Metadata) : Metadata :=
  if value.isFalsy then
    .null
  else
    match walk value with
    | none => .null
    | some sanitized => if sanitized.isFalsy || sanitized.isArray then .null else sanitized

theorem walkItems_eq (items : List Metadata) : walkItems items = items.map walk := by
  induction items with
  | nil =>
      rfl
  | cons item rest inductionHypothesis =>
      rw [walkItems, inductionHypothesis, List.map_cons]

theorem walkEntries_eq (entries : List (JsString × Metadata)) :
    walkEntries entries = entries.map fun entry => (entry.1, walk entry.2) := by
  induction entries with
  | nil =>
      rfl
  | cons entry rest inductionHypothesis =>
      obtain ⟨key, raw⟩ := entry
      rw [walkEntries, inductionHypothesis, List.map_cons]

/-! ## Induction -/

/-- A property of the items and of the children passes to the whole. -/
theorem induct {motive : Metadata → Prop} (null : motive .null)
    (boolean : ∀ value, motive (.boolean value)) (number : ∀ value, motive (.number value))
    (string : ∀ text, motive (.string text))
    (array : ∀ items, (∀ item ∈ items, motive item) → motive (.array items))
    (object : ∀ entries, (∀ entry ∈ entries, motive entry.2) → motive (.object entries)) :
    ∀ value, motive value
  | .null => null
  | .boolean value => boolean value
  | .number value => number value
  | .string text => string text
  | .array items => array items fun item member =>
      have _smaller := List.sizeOf_lt_of_mem member
      induct null boolean number string array object item
  | .object entries => object entries fun entry member =>
      have _smaller := List.sizeOf_lt_of_mem member
      induct null boolean number string array object entry.2
termination_by value => sizeOf value
decreasing_by
  · simp only [Metadata.array.sizeOf_spec]
    omega
  · obtain ⟨key, child⟩ := entry
    simp only [Prod.mk.sizeOf_spec] at _smaller
    simp only [Metadata.object.sizeOf_spec]
    omega

/-! ## The normal form -/

/-- What a walk returns and leaves alone. -/
inductive Sanitized : Metadata → Prop
  | boolean (value : Bool) : Sanitized (.boolean value)
  | number (value : ℚ) : Sanitized (.number value)
  | string (text : JsString) : Sanitized (.string (text.cutTo 1024 (.ofString "...")))
  | array {items : List Metadata} (short : items.length ≤ 50)
      (inside : ∀ item ∈ items, Sanitized item) : Sanitized (.array items)
  | object {entries : List (JsString × Metadata)} (distinct : (entries.map Prod.fst).Nodup)
      (named : ∀ entry ∈ entries, isSensitive entry.1 = false ∧
        entry.1 ≠ .ofString "__proto__")
      (inside : ∀ entry ∈ entries, Sanitized entry.2) : Sanitized (.object entries)

/-- The entries which the loop has collected so far. -/
structure Collected (acc : List (JsString × Metadata)) : Prop where
  distinct : (acc.map Prod.fst).Nodup
  named : ∀ entry ∈ acc, isSensitive entry.1 = false ∧ entry.1 ≠ .ofString "__proto__"
  inside : ∀ entry ∈ acc, Sanitized entry.2

theorem collected_nil : Collected [] :=
  ⟨List.nodup_nil, fun _ member => absurd member List.not_mem_nil,
    fun _ member => absurd member List.not_mem_nil⟩

theorem Collected.assign {acc : List (JsString × Metadata)} (collected : Collected acc)
    {key : JsString} {child : Metadata} (harmless : isSensitive key = false)
    (sanitized : Sanitized child) : Collected (assign acc key child) := by
  unfold Metadata.assign
  split
  · exact collected
  · rename_i own
    split
    · have keys : (acc.map fun entry => if entry.1 = key then (key, child) else entry).map
          Prod.fst = acc.map Prod.fst := by
        rw [List.map_map]
        apply List.map_congr_left
        intro entry _
        by_cases same : entry.1 = key <;> simp [same]
      refine ⟨keys ▸ collected.distinct, ?_, ?_⟩ <;> intro entry member
      all_goals
        obtain ⟨old, stored, replaced⟩ := List.mem_map.mp member
        by_cases same : old.1 = key
      · rw [← replaced, if_pos same]
        exact ⟨harmless, own⟩
      · rw [← replaced, if_neg same]
        exact collected.named old stored
      · rw [← replaced, if_pos same]
        exact sanitized
      · rw [← replaced, if_neg same]
        exact collected.inside old stored
    · rename_i fresh
      refine ⟨?_, ?_, ?_⟩
      · rw [List.map_append]
        apply List.nodup_append.mpr
        refine ⟨collected.distinct, List.nodup_singleton key, ?_⟩
        intro name stored other new same
        have named : other = key := List.mem_singleton.mp new
        exact fresh (named ▸ same ▸ stored)
      · intro entry member
        rcases List.mem_append.mp member with old | new
        · exact collected.named entry old
        · rw [List.mem_singleton.mp new]
          exact ⟨harmless, own⟩
      · intro entry member
        rcases List.mem_append.mp member with old | new
        · exact collected.inside entry old
        · rw [List.mem_singleton.mp new]
          exact sanitized

theorem Collected.addEntries {entries : List (JsString × Option Metadata)}
    (children : ∀ entry ∈ entries, ∀ child ∈ entry.2, Sanitized child)
    {acc : List (JsString × Metadata)} (collected : Collected acc) :
    Collected (entries.foldl addEntry acc) := by
  induction entries generalizing acc with
  | nil =>
      exact collected
  | cons entry rest inductionHypothesis =>
      apply inductionHypothesis fun later member =>
        children later (List.mem_cons_of_mem entry member)
      have own := children entry List.mem_cons_self
      unfold addEntry
      by_cases sensitive : isSensitive entry.1 = true
      · rw [if_pos sensitive]
        exact collected
      · rw [if_neg sensitive]
        cases walked : entry.2 with
        | none =>
            exact collected
        | some child =>
            exact collected.assign (Bool.eq_false_iff.mpr sensitive) (own child walked)

/-- A walk ends in the normal form. -/
theorem sanitized_of_walk (value : Metadata) : ∀ result ∈ walk value, Sanitized result := by
  induction value using induct with
  | null =>
      intro result walked
      cases walked
  | boolean value =>
      intro result walked
      cases walked
      exact .boolean value
  | number value =>
      intro result walked
      cases walked
      exact .number value
  | string text =>
      intro result walked
      cases walked
      exact .string text
  | array items inside =>
      intro result walked
      rw [walk, walkItems_eq] at walked
      cases walked
      apply Sanitized.array
      · have kept := List.length_filterMap_le id ((items.map walk).take 50)
        have cut := List.length_take_le 50 (items.map walk)
        omega
      · intro item member
        obtain ⟨walked, taken, same⟩ := List.mem_filterMap.mp member
        obtain ⟨source, listed, rfl⟩ := List.mem_map.mp (List.mem_of_mem_take taken)
        exact inside source listed item same
  | object entries inside =>
      intro result walked
      rw [walk, walkEntries_eq] at walked
      cases walked
      have children : ∀ entry ∈ entries.map fun entry => (entry.1, walk entry.2),
          ∀ child ∈ entry.2, Sanitized child := by
        intro entry member child walked
        obtain ⟨source, listed, rfl⟩ := List.mem_map.mp member
        exact inside source listed child walked
      have collected := collected_nil.addEntries children
      exact .object collected.distinct collected.named collected.inside

/-- New entries are added at the end. -/
theorem foldl_addEntry_fixed {entries : List (JsString × Metadata)}
    (named : ∀ entry ∈ entries, isSensitive entry.1 = false ∧
      entry.1 ≠ .ofString "__proto__") (acc : List (JsString × Metadata))
    (distinct : ((acc ++ entries).map Prod.fst).Nodup) :
    (entries.map fun entry => (entry.1, some entry.2)).foldl addEntry acc = acc ++ entries := by
  induction entries generalizing acc with
  | nil =>
      rw [List.append_nil]
      rfl
  | cons entry rest inductionHypothesis =>
      obtain ⟨harmless, own⟩ := named entry List.mem_cons_self
      have fresh : entry.1 ∉ acc.map Prod.fst := by
        intro stored
        rw [List.map_append, List.map_cons] at distinct
        exact (List.nodup_append.mp distinct).2.2 _ stored _ List.mem_cons_self rfl
      have added : addEntry acc (entry.1, some entry.2) = acc ++ [entry] := by
        simp [addEntry, assign, harmless, own, fresh]
      have shifted : acc ++ entry :: rest = acc ++ [entry] ++ rest := by
        rw [List.append_assoc, List.singleton_append]
      rw [List.map_cons, List.foldl_cons, added, shifted]
      rw [shifted] at distinct
      exact inductionHypothesis
        (fun later member => named later (List.mem_cons_of_mem entry member)) _ distinct

/-- A walk leaves the normal form alone. -/
theorem walk_of_sanitized {value : Metadata} (sanitized : Sanitized value) :
    walk value = some value := by
  induction sanitized with
  | boolean value =>
      rfl
  | number value =>
      rfl
  | string text =>
      rw [walk, JsString.cutTo_cutTo]
  | @array items short inside inductionHypothesis =>
      have walked : items.map walk = items.map some := List.map_congr_left inductionHypothesis
      have whole : items.take 50 = items := List.take_of_length_le short
      rw [walk, walkItems_eq, walked, ← List.map_take, whole, List.filterMap_map]
      simp
  | @object entries distinct named inside inductionHypothesis =>
      have walked : (entries.map fun entry => (entry.1, walk entry.2)) =
          entries.map fun entry => (entry.1, some entry.2) := by
        apply List.map_congr_left
        intro entry member
        rw [inductionHypothesis entry member]
      rw [walk, walkEntries_eq, walked, foldl_addEntry_fixed named [] (by simpa using distinct)]
      rfl

/-! ## What is recorded -/

/-- A value occurs in another one, at any depth. -/
inductive Within (part : Metadata) : Metadata → Prop
  | self : Within part part
  | item {items : List Metadata} {item : Metadata} (member : item ∈ items)
      (deeper : Within part item) : Within part (.array items)
  | child {entries : List (JsString × Metadata)} {entry : JsString × Metadata}
      (member : entry ∈ entries) (deeper : Within part entry.2) :
      Within part (.object entries)

theorem Sanitized.within {value part : Metadata} (sanitized : Sanitized value)
    (within : Within part value) : Sanitized part := by
  induction within with
  | self =>
      exact sanitized
  | item member _ inductionHypothesis =>
      cases sanitized with
      | array short inside =>
          exact inductionHypothesis (inside _ member)
  | child member _ inductionHypothesis =>
      cases sanitized with
      | object distinct named inside =>
          exact inductionHypothesis (inside _ member)

/-- No sensitive key, no long array and no long string. -/
def Harmless : Metadata → Prop
  | .object entries => ∀ entry ∈ entries, entry.1.trim.toLowerCase ∉ sensitiveMetadataKeys
  | .array items => items.length ≤ 50
  | .string text => text.length ≤ 1027
  | _ => True

theorem Sanitized.harmless {value : Metadata} (sanitized : Sanitized value) :
    value.Harmless := by
  cases sanitized with
  | boolean value =>
      trivial
  | number value =>
      trivial
  | string text =>
      exact JsString.length_cutTo_le text 1024 (.ofString "...")
  | array short inside =>
      exact short
  | object distinct named inside =>
      intro entry member sensitive
      have harmless := (named entry member).1
      simp [isSensitive, sensitive] at harmless

/-- Null, or a value in normal form which is neither falsy nor an array. -/
theorem sanitizeMetadata_cases (value : Metadata) :
    sanitizeMetadata value = .null ∨
      walk (sanitizeMetadata value) = some (sanitizeMetadata value) ∧
        Sanitized (sanitizeMetadata value) ∧
          (sanitizeMetadata value).isFalsy = false ∧
            (sanitizeMetadata value).isArray = false := by
  unfold sanitizeMetadata
  split
  · exact .inl rfl
  · cases walked : walk value with
    | none =>
        exact .inl rfl
    | some result =>
        have sanitized := sanitized_of_walk value result walked
        dsimp only
        split
        · exact .inl rfl
        · rename_i kept
          simp only [Bool.or_eq_true, not_or, Bool.not_eq_true] at kept
          exact .inr ⟨walk_of_sanitized sanitized, sanitized, kept⟩

/-- What is recorded is harmless at every depth, and sanitising it again changes nothing. -/
theorem sanitizeMetadata_harmless_and_idempotent (value : Metadata) :
    (∀ part, Within part (sanitizeMetadata value) → part.Harmless) ∧
      sanitizeMetadata (sanitizeMetadata value) = sanitizeMetadata value := by
  rcases sanitizeMetadata_cases value with empty | ⟨walked, sanitized, truthy, single⟩
  · rw [empty]
    refine ⟨?_, rfl⟩
    intro part within
    cases within
    trivial
  · constructor
    · intro part within
      exact (sanitized.within within).harmless
    · generalize sanitizeMetadata value = result at walked truthy single
      simp [sanitizeMetadata, truthy, walked, single]

end Metadata

end Tchuno.Auth
