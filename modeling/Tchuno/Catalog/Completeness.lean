import Tchuno.Catalog.Synchronisation

/-!
# Nothing is lost by a synchronisation, requests apart

The loop over the mappings settles every legacy category, and a second run of the script
finds nothing to do.  Requests are not part of it: a request of a legacy category stays one.
-/

namespace Tchuno.Catalog

open Tchuno.Library Tchuno.Tracking

/-! ## The loop over the mappings -/

/-- What the mappings of a list do to the database, one after the other. -/
structure Merges (mappings : List LegacyCategoryMapping)
    (before after : CategoryDatabase) : Prop where
  others : ∀ slug ∉ mappings.map LegacyCategoryMapping.fromSlug,
    after.categories.findBySlug? slug = before.categories.findBySlug? slug
  identity : ∀ slug, (after.categories.findBySlug? slug).map Category.id =
    (before.categories.findBySlug? slug).map Category.id
  settled : ∀ mapping ∈ mappings, mapping.Settled after
  settled_kept : ∀ mapping : LegacyCategoryMapping,
    mapping.fromSlug ∉ mappings.map LegacyCategoryMapping.fromSlug →
    mapping.fromSlug ∉ mappings.map LegacyCategoryMapping.toSlug →
    mapping.Settled before → mapping.Settled after
  linked : ∀ mapping ∈ mappings, ∀ legacy canonical,
    before.categories.findBySlug? mapping.fromSlug = some legacy →
    before.categories.findBySlug? mapping.toSlug = some canonical →
    ∀ worker, (worker, legacy.id) ∈ before.workerProfileCategories →
      (worker, canonical.id) ∈ after.workerProfileCategories
  links_kept : ∀ link ∈ before.workerProfileCategories,
    (∀ mapping ∈ mappings, ∀ legacy,
      before.categories.findBySlug? mapping.fromSlug = some legacy → link.2 ≠ legacy.id) →
    link ∈ after.workerProfileCategories
  interactions : after.interactions = before.interactions
  requests : after.serviceRequests = before.serviceRequests

theorem Merges.nil (database : CategoryDatabase) : Merges [] database database where
  others _ _ := rfl
  identity _ := rfl
  settled _ listed := nomatch listed
  settled_kept _ _ _ settled := settled
  linked _ listed := nomatch listed
  links_kept _ member _ := member
  interactions := rfl
  requests := rfl

section Step

variable {mapping : LegacyCategoryMapping} {before after : CategoryDatabase}

theorem LegacyCategoryMapping.Moves.identity_all (moves : mapping.Moves before after)
    (slug : String) :
    (after.categories.findBySlug? slug).map Category.id =
      (before.categories.findBySlug? slug).map Category.id := by
  by_cases own : slug = mapping.fromSlug
  · rw [own]
    exact moves.identity
  · rw [moves.others slug own]

/-- A mapping leaves alone what another one has settled. -/
theorem LegacyCategoryMapping.Moves.settled_other (moves : mapping.Moves before after)
    {other : LegacyCategoryMapping} (settled : other.Settled before)
    (notFrom : other.fromSlug ≠ mapping.fromSlug) (notTo : other.fromSlug ≠ mapping.toSlug) :
    other.Settled after := by
  intro legacy found
  rw [moves.others _ notFrom] at found
  obtain ⟨inactive, unlinked, unused, uncounted⟩ := settled legacy found
  refine ⟨inactive, ?_, ?_, moves.uncounted _ notTo uncounted⟩
  · intro link member
    rcases moves.links_origin link member with older | ⟨canonical, target, moved⟩
    · exact unlinked link older
    · rw [moved]
      exact CategoryTable.id_ne_of_found target found (Ne.symm notTo)
  · intro job member
    rcases moves.jobs_origin job member with ⟨old, oldMember, same⟩ | ⟨canonical, target, moved⟩
    · rw [same]
      exact unused old oldMember
    · rw [moved]
      exact CategoryTable.id_ne_of_found target found (Ne.symm notTo)

end Step

theorem Merges.cons {mapping : LegacyCategoryMapping} {rest : List LegacyCategoryMapping}
    {before middle after : CategoryDatabase} (moves : mapping.Moves before middle)
    (merges : Merges rest middle after)
    (fresh : mapping.fromSlug ∉ rest.map LegacyCategoryMapping.fromSlug)
    (legacyOnly : ∀ first ∈ mapping :: rest, ∀ second ∈ mapping :: rest,
      first.fromSlug ≠ second.toSlug) :
    Merges (mapping :: rest) before after where
  others := by
    intro slug absent
    have notOwn : slug ≠ mapping.fromSlug := fun same => absent (same ▸ List.mem_cons_self)
    rw [merges.others slug fun listed => absent (List.mem_cons_of_mem _ listed),
      moves.others slug notOwn]
  identity := by
    intro slug
    rw [merges.identity, moves.identity_all]
  settled := by
    intro other member
    rcases List.mem_cons.mp member with rfl | listed
    · refine merges.settled_kept other fresh ?_ moves.settled
      intro target
      obtain ⟨later, laterListed, same⟩ := List.mem_map.mp target
      exact legacyOnly other List.mem_cons_self later (List.mem_cons_of_mem _ laterListed)
        same.symm
    · exact merges.settled other listed
  settled_kept := by
    intro other notFrom notTo settled
    have notOwn : other.fromSlug ≠ mapping.fromSlug :=
      fun same => notFrom (same ▸ List.mem_cons_self)
    have notTarget : other.fromSlug ≠ mapping.toSlug :=
      fun same => notTo (same ▸ List.mem_cons_self)
    exact merges.settled_kept other (fun listed => notFrom (List.mem_cons_of_mem _ listed))
      (fun listed => notTo (List.mem_cons_of_mem _ listed))
      (moves.settled_other settled notOwn notTarget)
  linked := by
    intro other member legacy canonical found target worker link
    rcases List.mem_cons.mp member with rfl | listed
    · have moved := moves.linked legacy canonical found target worker link
      have kept : middle.categories.findBySlug? other.toSlug = some canonical := by
        rw [moves.others _ (Ne.symm (legacyOnly other List.mem_cons_self other
          List.mem_cons_self)), target]
      refine merges.links_kept _ moved fun later laterListed legacy' found' => ?_
      exact CategoryTable.id_ne_of_found kept found' (Ne.symm
        (legacyOnly later (List.mem_cons_of_mem _ laterListed) other List.mem_cons_self))
    · have notOwn : other.fromSlug ≠ mapping.fromSlug :=
        fun same => fresh (List.mem_map.mpr ⟨other, listed, same⟩)
      have notTarget : other.toSlug ≠ mapping.fromSlug :=
        Ne.symm (legacyOnly mapping List.mem_cons_self other member)
      have kept : (worker, legacy.id) ∈ middle.workerProfileCategories := by
        refine moves.links_kept _ link fun own ownFound => ?_
        exact CategoryTable.id_ne_of_found found ownFound notOwn
      exact merges.linked other listed legacy canonical
        (by rw [moves.others _ notOwn, found]) (by rw [moves.others _ notTarget, target])
        worker kept
  links_kept := by
    intro link member foreign
    refine merges.links_kept link
      (moves.links_kept link member (foreign mapping List.mem_cons_self)) ?_
    intro other listed legacy found
    have notOwn : other.fromSlug ≠ mapping.fromSlug :=
      fun same => fresh (List.mem_map.mpr ⟨other, listed, same⟩)
    rw [moves.others _ notOwn] at found
    exact foreign other (List.mem_cons_of_mem _ listed) legacy found
  interactions := merges.interactions.trans moves.interactions
  requests := merges.requests.trans moves.requests

theorem mergeAll_spec (now : Time) {mappings : List LegacyCategoryMapping}
    (distinct : (mappings.map LegacyCategoryMapping.fromSlug).Nodup)
    (legacyOnly : ∀ first ∈ mappings, ∀ second ∈ mappings, first.fromSlug ≠ second.toSlug)
    {database : CategoryDatabase}
    (targets : ∀ mapping ∈ mappings,
      (database.categories.findBySlug? mapping.toSlug).isSome)
    (summary : CategoriesSyncSummary) :
    (∃ final, (mergeAll now mappings summary database).result = .ok final) ∧
      Merges mappings database (mergeAll now mappings summary database).state := by
  induction mappings generalizing database summary with
  | nil =>
      exact ⟨⟨summary, rfl⟩, Merges.nil database⟩
  | cons mapping rest inductionHypothesis =>
      obtain ⟨fresh, distinctRest⟩ := List.nodup_cons.mp distinct
      have different := legacyOnly mapping List.mem_cons_self mapping List.mem_cons_self
      obtain ⟨canonical, target⟩ := Option.isSome_iff_exists.mp (targets mapping List.mem_cons_self)
      obtain ⟨next, applied⟩ := mergeLegacy_apply now different target summary
      have moves := LegacyCategoryMapping.moves_merged now different target
      rw [mergeAll, Action.bind_of_ok applied, Outcome.after_nil]
      obtain ⟨final, merges⟩ := @inductionHypothesis distinctRest
        (fun first listed second other =>
          legacyOnly first (List.mem_cons_of_mem _ listed) second (List.mem_cons_of_mem _ other))
        (database.merged mapping canonical now)
        (fun other listed => by
          have notOwn : other.toSlug ≠ mapping.fromSlug := Ne.symm
            (legacyOnly mapping List.mem_cons_self other (List.mem_cons_of_mem _ listed))
          rw [moves.others _ notOwn]
          exact targets other (List.mem_cons_of_mem _ listed))
        next
      exact ⟨final, Merges.cons moves merges fresh legacyOnly⟩

/-- Where every mapping is settled the loop changes nothing. -/
theorem mergeAll_of_settled (now : Time) {mappings : List LegacyCategoryMapping}
    {database : CategoryDatabase}
    (legacyOnly : ∀ mapping ∈ mappings, mapping.fromSlug ≠ mapping.toSlug)
    (targets : ∀ mapping ∈ mappings,
      (database.categories.findBySlug? mapping.toSlug).isSome)
    (settled : ∀ mapping ∈ mappings, mapping.Settled database)
    (summary : CategoriesSyncSummary) :
    ∃ final, mergeAll now mappings summary database = ⟨.ok final, database, []⟩ := by
  induction mappings generalizing summary with
  | nil =>
      exact ⟨summary, rfl⟩
  | cons mapping rest inductionHypothesis =>
      obtain ⟨canonical, found⟩ := Option.isSome_iff_exists.mp (targets mapping List.mem_cons_self)
      obtain ⟨next, applied⟩ :=
        mergeLegacy_apply now (legacyOnly mapping List.mem_cons_self) found summary
      rw [merged_of_settled (settled mapping List.mem_cons_self)] at applied
      rw [mergeAll, Action.bind_of_ok applied, Outcome.after_nil]
      exact inductionHypothesis
        (fun other listed => legacyOnly other (List.mem_cons_of_mem _ listed))
        (fun other listed => targets other (List.mem_cons_of_mem _ listed))
        (fun other listed => settled other (List.mem_cons_of_mem _ listed)) next

/-! ## A second run -/

def timelessRow (row : Category) : Category :=
  { row with updatedAt := 0 }

/-- The categories without the times of their last updates. -/
def timeless (table : Table Category) : Table Category :=
  table.updateMany (fun _ => true) timelessRow

theorem rows_timeless (table : Table Category) :
    (timeless table).rows = table.rows.map timelessRow := rfl

/-- Columns other than the time are determined by the timeless rows. -/
theorem map_rows_of_timeless {τ : Type} {left right : Table Category}
    (same : timeless left = timeless right) {column : Category → τ}
    (kept : ∀ row, column (timelessRow row) = column row) :
    left.rows.map column = right.rows.map column := by
  have columns : ∀ table : Table Category,
      table.rows.map column = (timeless table).rows.map column := by
    intro table
    rw [rows_timeless, List.map_map]
    exact List.map_congr_left fun row _ => (kept row).symm
  rw [columns left, columns right, same]

theorem findBySlug?_timeless (categories : CategoryTable) (slug : String) :
    ((timeless categories.table).findFirst? fun row => row.slug == slug) =
      (categories.findBySlug? slug).map timelessRow := by
  rw [Table.findFirst?, rows_timeless, List.find?_map]
  rfl

theorem exists_of_timeless {left right : CategoryTable}
    (same : timeless left.table = timeless right.table) {slug : String} {row : Category}
    (found : left.findBySlug? slug = some row) :
    ∃ other, right.findBySlug? slug = some other ∧ timelessRow other = timelessRow row := by
  have image : (right.findBySlug? slug).map timelessRow = some (timelessRow row) := by
    rw [← findBySlug?_timeless, ← same, findBySlug?_timeless, found]
    rfl
  obtain ⟨other, stored, equal⟩ := Option.map_eq_some_iff.mp image
  exact ⟨other, stored, equal⟩

theorem OfficialCategory.Describes.of_timeless {category : OfficialCategory}
    {row other : Category} (describes : category.Describes row)
    (same : timelessRow other = timelessRow row) : category.Describes other := by
  have name : other.name = row.name := congrArg (fun row => row.name) same
  have description : other.description = row.description :=
    congrArg (fun row => row.description) same
  have isActive : other.isActive = row.isActive := congrArg (fun row => row.isActive) same
  have sortOrder : other.sortOrder = row.sortOrder := congrArg (fun row => row.sortOrder) same
  rw [OfficialCategory.Describes, name, description, isActive, sortOrder]
  exact describes

theorem LegacyCategoryMapping.Settled.of_timeless {mapping : LegacyCategoryMapping}
    {database : CategoryDatabase} (settled : mapping.Settled database)
    {categories : CategoryTable}
    (same : timeless categories.table = timeless database.categories.table) :
    mapping.Settled { database with categories := categories } := by
  intro legacy found
  obtain ⟨other, stored, equal⟩ := exists_of_timeless same found
  have sameId : other.id = legacy.id := congrArg (fun row => row.id) equal
  have sameActive : other.isActive = legacy.isActive := congrArg (fun row => row.isActive) equal
  have facts := settled other stored
  rw [sameId, sameActive] at facts
  exact facts

/-- Upserting what a row already says changes only its time. -/
theorem timeless_upserted {category : OfficialCategory} {categories : CategoryTable}
    {row : Category} (now : Time)
    (found : categories.findBySlug? category.slug = some row)
    (describes : category.Describes row) :
    timeless (upserted category now categories.table) = timeless categories.table := by
  have read : (categories.table.findFirst? fun other => other.slug == category.slug) =
    some row := found
  have member := (CategoryTable.findBySlug?_eq_some_iff.mp found).1
  have written : timelessRow (officialRow category now row) = timelessRow row := by
    obtain ⟨name, description, isActive, sortOrder⟩ := describes
    simp only [timelessRow, officialRow, ← name, ← description, ← isActive, ← sortOrder]
  unfold upserted
  rw [read]
  refine Table.eq_of_rows_eq ?_ rfl
  rw [rows_timeless, rows_timeless]
  simp only [Table.update, Table.updateMany, List.map_map]
  refine List.map_congr_left fun other listed => ?_
  simp only [Function.comp_apply]
  split_ifs with sameKey
  · have equal : other = row :=
      categories.table.eq_of_key_eq listed member (by simpa using sameKey)
    rw [equal, written]
  · rfl

theorem upsertOfficial_of_described (now : Time) {official : List OfficialCategory}
    {database : CategoryDatabase}
    (described : ∀ category ∈ official, ∃ row,
      database.categories.findBySlug? category.slug = some row ∧ category.Describes row) :
    ∃ categories, upsertOfficial now official database =
        ⟨.ok (), { database with categories := categories }, []⟩ ∧
      timeless categories.table = timeless database.categories.table := by
  induction official generalizing database with
  | nil =>
      exact ⟨database.categories, rfl, rfl⟩
  | cons category rest inductionHypothesis =>
      obtain ⟨row, found, describes⟩ := described category List.mem_cons_self
      have same := timeless_upserted now found describes
      have names : ((upserted category now database.categories.table).rows.map
          Category.name).Nodup := by
        rw [map_rows_of_timeless same fun _ => rfl]
        exact database.categories.names
      have slugs : ((upserted category now database.categories.table).rows.map
          Category.slug).Nodup := by
        rw [map_rows_of_timeless same fun _ => rfl]
        exact database.categories.slugs
      have wrote := writeCategories_of_checked (CategoryTable.checked_of_unique names slugs)
      rw [upsertOfficial, Action.bind_of_ok wrote, Outcome.after_nil]
      obtain ⟨categories, applied, later⟩ := @inductionHypothesis
        { database with
          categories := ⟨upserted category now database.categories.table, names, slugs⟩ }
        (fun other listed => by
          obtain ⟨otherRow, otherFound, otherDescribes⟩ :=
            described other (List.mem_cons_of_mem _ listed)
          obtain ⟨newRow, newFound, equal⟩ := @exists_of_timeless database.categories
            ⟨upserted category now database.categories.table, names, slugs⟩ same.symm _ _
            otherFound
          exact ⟨newRow, newFound, otherDescribes.of_timeless equal⟩)
      exact ⟨categories, applied, later.trans same⟩

/-! ## A run -/

/-- What a completed run has done. -/
structure Synchronised (catalog : CategoryCatalog) (before after : CategoryDatabase) :
    Prop where
  described : ∀ category ∈ catalog.official, ∃ row,
    after.categories.findBySlug? category.slug = some row ∧ category.Describes row
  settled : ∀ mapping ∈ catalog.mappings, mapping.Settled after
  identity : ∀ mapping ∈ catalog.mappings,
    (after.categories.findBySlug? mapping.fromSlug).map Category.id =
      (before.categories.findBySlug? mapping.fromSlug).map Category.id
  linked : ∀ mapping ∈ catalog.mappings, ∀ legacy,
    before.categories.findBySlug? mapping.fromSlug = some legacy →
    ∀ worker, (worker, legacy.id) ∈ before.workerProfileCategories →
      ∃ canonical, after.categories.findBySlug? mapping.toSlug = some canonical ∧
        (worker, canonical.id) ∈ after.workerProfileCategories
  interactions : after.interactions = before.interactions
  requests : after.serviceRequests = before.serviceRequests

namespace CategoryCatalog

variable (catalog : CategoryCatalog)

theorem legacyOnly : ∀ first ∈ catalog.mappings, ∀ second ∈ catalog.mappings,
    first.fromSlug ≠ second.toSlug := by
  intro first firstMember second secondMember same
  exact catalog.fromSlug_legacy first firstMember
    (same ▸ catalog.toSlug_official second secondMember)

variable {catalog}

theorem isSome_target {database : CategoryDatabase}
    (described : ∀ category ∈ catalog.official, ∃ row,
      database.categories.findBySlug? category.slug = some row ∧ category.Describes row) :
    ∀ mapping ∈ catalog.mappings,
      (database.categories.findBySlug? mapping.toSlug).isSome := by
  intro mapping member
  obtain ⟨category, listed, same⟩ := List.mem_map.mp (catalog.toSlug_official mapping member)
  obtain ⟨row, found, _⟩ := described category listed
  rw [← same, found]
  rfl

end CategoryCatalog

theorem synchronised_of_ok {catalog : CategoryCatalog} {now : Time} {before : CategoryDatabase}
    {summary : CategoriesSyncSummary}
    (completed : (syncCategories catalog now before).result = .ok summary) :
    Synchronised catalog before (syncCategories catalog now before).state := by
  obtain ⟨_, upserted, merged, state⟩ := Action.exists_of_bind_eq_ok completed
  obtain ⟨categories, middle, others, described⟩ :=
    upsertOfficial_spec now catalog.slugs_distinct upserted
  have wholeState : (syncCategories catalog now before).state = _ := state
  rw [wholeState, middle]
  have targets := @CategoryCatalog.isSome_target catalog
    { before with categories := categories } described
  obtain ⟨_, merges⟩ := mergeAll_spec now catalog.fromSlug_distinct catalog.legacyOnly targets
    ⟨catalog.official.length, 0, 0, 0, 0, 0⟩
  have sameLegacy : ∀ mapping ∈ catalog.mappings,
      categories.findBySlug? mapping.fromSlug =
        before.categories.findBySlug? mapping.fromSlug :=
    fun mapping member => others _ (catalog.fromSlug_legacy mapping member)
  have officialKept : ∀ slug ∈ catalog.official.map OfficialCategory.slug,
      slug ∉ catalog.mappings.map LegacyCategoryMapping.fromSlug := by
    intro slug official listed
    obtain ⟨mapping, member, rfl⟩ := List.mem_map.mp listed
    exact catalog.fromSlug_legacy mapping member official
  constructor
  · intro category member
    obtain ⟨row, found, describes⟩ := described category member
    refine ⟨row, ?_, describes⟩
    rw [merges.others _ (officialKept _ (List.mem_map_of_mem member))]
    exact found
  · exact merges.settled
  · intro mapping member
    rw [merges.identity, ← sameLegacy mapping member]
  · intro mapping member legacy found worker link
    obtain ⟨canonical, target⟩ := Option.isSome_iff_exists.mp (targets mapping member)
    refine ⟨canonical, ?_, ?_⟩
    · rw [merges.others _ (officialKept _ (catalog.toSlug_official mapping member))]
      exact target
    · exact merges.linked mapping member legacy canonical
        ((sameLegacy mapping member).trans found) target worker link
  · exact merges.interactions
  · exact merges.requests

theorem Synchronised.again {catalog : CategoryCatalog} {before after : CategoryDatabase}
    (synchronised : Synchronised catalog before after) (later : Time) :
    ∃ summary categories, syncCategories catalog later after =
        ⟨.ok summary, { after with categories := categories }, []⟩ ∧
      timeless categories.table = timeless after.categories.table := by
  obtain ⟨categories, upserted, same⟩ :=
    upsertOfficial_of_described later synchronised.described
  have described : ∀ category ∈ catalog.official, ∃ row,
      categories.findBySlug? category.slug = some row ∧ category.Describes row := by
    intro category member
    obtain ⟨row, found, describes⟩ := synchronised.described category member
    obtain ⟨other, stored, equal⟩ := exists_of_timeless same.symm found
    exact ⟨other, stored, describes.of_timeless equal⟩
  obtain ⟨summary, merged⟩ := @mergeAll_of_settled later catalog.mappings
    { after with categories := categories }
    (fun mapping member => catalog.legacyOnly mapping member mapping member)
    (CategoryCatalog.isSome_target described)
    (fun mapping member => (synchronised.settled mapping member).of_timeless same)
    ⟨catalog.official.length, 0, 0, 0, 0, 0⟩
  refine ⟨summary, categories, ?_, same⟩
  unfold syncCategories
  rw [Action.bind_of_ok upserted, Outcome.after_nil]
  exact merged

/-- A second run would change only times, every interaction is still counted, every worker
of a legacy category is one of its canonical category, and nothing refers to a legacy
category any more. -/
structure LosesNothing (catalog : CategoryCatalog) (before after : CategoryDatabase)
    (later : Time) : Prop where
  again : ∃ summary categories, syncCategories catalog later after =
      ⟨.ok summary, { after with categories := categories }, []⟩ ∧
    timeless categories.table = timeless after.categories.table
  interactions : after.interactions = before.interactions
  linked : ∀ mapping ∈ catalog.mappings, mapping.fromSlug ≠ mapping.toSlug →
    ∀ legacy ∈ before.categories.table, legacy.slug = mapping.fromSlug →
    ∀ worker, (worker, legacy.id) ∈ before.workerProfileCategories →
      ∃ canonical ∈ after.categories.table, canonical.slug = mapping.toSlug ∧
        (worker, canonical.id) ∈ after.workerProfileCategories
  unreferenced : ∀ mapping ∈ catalog.mappings, mapping.fromSlug ≠ mapping.toSlug →
    ∀ legacy ∈ after.categories.table, legacy.slug = mapping.fromSlug →
      (∀ job ∈ after.jobs, job.categoryId ≠ legacy.id) ∧
      (∀ link ∈ after.workerProfileCategories, link.2 ≠ legacy.id) ∧
      ∀ request ∈ after.serviceRequests, request.categoryId ≠ legacy.id

/-- No request belongs to a legacy category. -/
def CategoryDatabase.RequestsCurrent (database : CategoryDatabase)
    (catalog : CategoryCatalog) : Prop :=
  ∀ mapping ∈ catalog.mappings, ∀ legacy ∈ database.categories.table,
    legacy.slug = mapping.fromSlug →
    ∀ request ∈ database.serviceRequests, request.categoryId ≠ legacy.id

theorem Synchronised.losesNothing_iff {catalog : CategoryCatalog}
    {before after : CategoryDatabase} (synchronised : Synchronised catalog before after)
    (later : Time) :
    LosesNothing catalog before after later ↔ before.RequestsCurrent catalog := by
  constructor
  · intro complete mapping member legacy legacyMember legacySlug request requestMember
    have different := catalog.legacyOnly mapping member mapping member
    have found : before.categories.findBySlug? mapping.fromSlug = some legacy :=
      CategoryTable.findBySlug?_eq_some_iff.mpr ⟨legacyMember, legacySlug⟩
    have identity := synchronised.identity mapping member
    rw [found] at identity
    obtain ⟨kept, keptFound, sameId⟩ := Option.map_eq_some_iff.mp identity
    obtain ⟨keptMember, keptSlug⟩ := CategoryTable.findBySlug?_eq_some_iff.mp keptFound
    rw [← sameId]
    exact (complete.unreferenced mapping member different kept keptMember keptSlug).2.2 request
      (synchronised.requests.symm ▸ requestMember)
  · intro current
    refine ⟨synchronised.again later, synchronised.interactions, ?_, ?_⟩
    · intro mapping member _ legacy legacyMember legacySlug worker link
      have found : before.categories.findBySlug? mapping.fromSlug = some legacy :=
        CategoryTable.findBySlug?_eq_some_iff.mpr ⟨legacyMember, legacySlug⟩
      obtain ⟨canonical, target, moved⟩ :=
        synchronised.linked mapping member legacy found worker link
      obtain ⟨canonicalMember, canonicalSlug⟩ :=
        CategoryTable.findBySlug?_eq_some_iff.mp target
      exact ⟨canonical, canonicalMember, canonicalSlug, moved⟩
    · intro mapping member _ legacy legacyMember legacySlug
      have found : after.categories.findBySlug? mapping.fromSlug = some legacy :=
        CategoryTable.findBySlug?_eq_some_iff.mpr ⟨legacyMember, legacySlug⟩
      obtain ⟨_, unlinked, unused, _⟩ := synchronised.settled mapping member legacy found
      refine ⟨unused, unlinked, fun request requestMember => ?_⟩
      have identity := synchronised.identity mapping member
      rw [found] at identity
      obtain ⟨old, oldFound, sameId⟩ := Option.map_eq_some_iff.mp identity.symm
      obtain ⟨oldMember, oldSlug⟩ := CategoryTable.findBySlug?_eq_some_iff.mp oldFound
      rw [← sameId]
      exact current mapping member old oldMember oldSlug request
        (synchronised.requests ▸ requestMember)

/-- A completed synchronisation loses nothing just when no request belongs to a legacy
category. -/
theorem sync_loses_nothing_iff {now : Time} {before : CategoryDatabase}
    {summary : CategoriesSyncSummary}
    (completed : (syncOfficialCategories now before).result = .ok summary) (later : Time) :
    LosesNothing officialCatalog before (syncOfficialCategories now before).state later ↔
      before.RequestsCurrent officialCatalog :=
  (synchronised_of_ok completed).losesNothing_iff later

/-! ## A request which is left behind -/

/-- The legacy category with one worker, 7 interactions and the requests given. -/
def legacyDatabase (serviceRequests : Table Payments.ServiceRequest) : CategoryDatabase where
  categories :=
    { table := Table.empty.insert fun id =>
        { id := id
          name := "Eletricidade"
          slug := "eletricidade"
          description := none
          isActive := true
          sortOrder := 0
          updatedAt := 0 }
      names := by decide
      slugs := by decide }
  workerProfileCategories := {(0, 0)}
  jobs := .empty
  serviceRequests := serviceRequests
  trackingCategoryAggregates := Record.empty.modify ⟨0, none⟩ "eletricidade" fun _ =>
    ⟨7, some 1⟩

theorem legacyDatabase_loses_nothing :
    (syncOfficialCategories 5 (legacyDatabase .empty)).result = .ok ⟨14, 1, 1, 0, 1, 1⟩ ∧
      LosesNothing officialCatalog (legacyDatabase .empty)
        (syncOfficialCategories 5 (legacyDatabase .empty)).state 9 := by
  have completed : (syncOfficialCategories 5 (legacyDatabase .empty)).result =
      .ok ⟨14, 1, 1, 0, 1, 1⟩ := by decide +kernel
  refine ⟨completed, (sync_loses_nothing_iff completed 9).mpr ?_⟩
  intro mapping _ legacy _ _ request member
  exact absurd member (Table.not_mem_empty request)

/-- An expired request of the legacy category. -/
def expiredRequests : Table Payments.ServiceRequest :=
  Table.empty.insert fun id =>
    { id := id
      customerId := 0
      categoryId := 0
      title := "Fix a socket"
      description := "The socket in the kitchen"
      status := .expired
      selectedProposalId := none
      expiresAt := 1 }

/-- The run completes and retires category 0, and the request still belongs to it. -/
theorem request_left_behind :
    (syncOfficialCategories 5 (legacyDatabase expiredRequests)).result =
        .ok ⟨14, 1, 1, 0, 1, 1⟩ ∧
      ((syncOfficialCategories 5 (legacyDatabase expiredRequests)).state.categories.findBySlug?
        "eletricidade").map (fun row => (row.id, row.isActive)) = some (0, false) ∧
      ((syncOfficialCategories 5 (legacyDatabase expiredRequests)).state.serviceRequests.rows.map
        fun request => request.categoryId) = [0] ∧
      ¬ LosesNothing officialCatalog (legacyDatabase expiredRequests)
        (syncOfficialCategories 5 (legacyDatabase expiredRequests)).state 9 := by
  have completed : (syncOfficialCategories 5 (legacyDatabase expiredRequests)).result =
      .ok ⟨14, 1, 1, 0, 1, 1⟩ := by decide +kernel
  refine ⟨completed, by decide +kernel, by decide +kernel, fun complete => ?_⟩
  have current := ((synchronised_of_ok completed).losesNothing_iff 9).mp complete
  exact current ⟨"eletricidade", "eletricista"⟩ List.mem_cons_self _ List.mem_cons_self rfl _
    List.mem_cons_self rfl

end Tchuno.Catalog
