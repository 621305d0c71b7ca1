import Tchuno.Catalog.Categories

/-!
# What a synchronisation keeps

A mapping moves the links, the jobs and the counts of its legacy category and leaves
everything else, the requests included, as it is.
-/

namespace Tchuno.Catalog

open Tchuno.Library Tchuno.Tracking

/-! ## Categories by their slugs -/

namespace CategoryTable

variable {categories : CategoryTable}

theorem findBySlug?_eq_some_iff {slug : String} {row : Category} :
    categories.findBySlug? slug = some row ↔ row ∈ categories.table ∧ row.slug = slug := by
  constructor
  · intro found
    obtain ⟨member, accepted⟩ := categories.table.mem_of_findFirst? found
    exact ⟨member, by simpa using accepted⟩
  · intro listed
    obtain ⟨member, rfl⟩ := listed
    cases found : categories.findBySlug? row.slug with
    | none =>
        have missing := categories.table.findFirst?_eq_none_iff.mp found row member
        simp at missing
    | some other =>
        obtain ⟨otherMember, accepted⟩ := categories.table.mem_of_findFirst? found
        have sameSlug : other.slug = row.slug := by simpa using accepted
        rw [List.inj_on_of_nodup_map categories.slugs otherMember member sameSlug]

/-- Categories with different slugs have different identifiers. -/
theorem id_ne_of_found {leftSlug rightSlug : String} {left right : Category}
    (leftFound : categories.findBySlug? leftSlug = some left)
    (rightFound : categories.findBySlug? rightSlug = some right)
    (different : leftSlug ≠ rightSlug) : left.id ≠ right.id := by
  obtain ⟨leftMember, rfl⟩ := findBySlug?_eq_some_iff.mp leftFound
  obtain ⟨rightMember, rfl⟩ := findBySlug?_eq_some_iff.mp rightFound
  intro sameId
  exact different (congrArg Category.slug
    (categories.table.eq_of_key_eq leftMember rightMember sameId))

end CategoryTable

/-- A rewrite of the row with one slug which keeps the slugs. -/
theorem findFirst?_update (table : Table Category) {row : Category} (member : row ∈ table)
    (slugs : (table.rows.map Category.slug).Nodup) (change : Category → Category)
    (keeps : ∀ row, Keyed.key (change row) = Keyed.key row)
    (keepsSlug : ∀ row, (change row).slug = row.slug) (slug : String) :
    ((table.update row.id change keeps).findFirst? fun other => other.slug == slug) =
      (table.findFirst? fun other => other.slug == slug).map fun other =>
        if slug = row.slug then change other else other := by
  have sameTest : ((fun other : Category => other.slug == slug) ∘
      fun other => if (Keyed.key other == row.id) = true then change other else other) =
        fun other => other.slug == slug := by
    funext other
    simp only [Function.comp_apply]
    split_ifs
    · rw [keepsSlug]
    · rfl
  rw [Table.findFirst?, Table.update, Table.updateMany, List.find?_map, sameTest,
    Table.findFirst?]
  cases found : table.rows.find? fun other => other.slug == slug with
  | none =>
      rfl
  | some other =>
      have otherMember : other ∈ table.rows := List.mem_of_find?_eq_some found
      have otherSlug : other.slug = slug := by simpa using List.find?_some found
      rw [Option.map_some, Option.map_some]
      by_cases same : slug = row.slug
      · have equal : other = row :=
          List.inj_on_of_nodup_map slugs otherMember member (otherSlug.trans same)
        simp [same, equal]
      · have different : other.id ≠ row.id := by
          intro sameId
          have equal := table.eq_of_key_eq otherMember member sameId
          exact same (otherSlug.symm.trans (congrArg Category.slug equal))
        simp [same, different]

/-! ## Writes -/

theorem CategoryTable.table_of_checked {table : Table Category} {categories : CategoryTable}
    (admitted : CategoryTable.checked table = .ok categories) : categories.table = table := by
  unfold CategoryTable.checked at admitted
  split_ifs at admitted
  cases admitted
  rfl

theorem CategoryTable.checked_of_unique {table : Table Category}
    (names : (table.rows.map Category.name).Nodup)
    (slugs : (table.rows.map Category.slug).Nodup) :
    CategoryTable.checked table = .ok ⟨table, names, slugs⟩ := by
  rw [CategoryTable.checked, dif_pos names, dif_pos slugs]

theorem writeCategories_of_checked {write : Table Category → Table Category}
    {database : CategoryDatabase} {categories : CategoryTable}
    (admitted : CategoryTable.checked (write database.categories.table) = .ok categories) :
    writeCategories write database =
      ⟨.ok (), { database with categories := categories }, []⟩ := by
  unfold writeCategories
  rw [Action.consult_bind_apply, admitted]
  rfl

theorem exists_of_writeCategories {write : Table Category → Table Category}
    {database : CategoryDatabase} {result : Unit}
    (returned : (writeCategories write database).result = .ok result) :
    ∃ categories, categories.table = write database.categories.table ∧
      (writeCategories write database).state =
        { database with categories := categories } := by
  cases admitted : CategoryTable.checked (write database.categories.table) with
  | error error =>
      have refused : (writeCategories write database).result = .error error := by
        unfold writeCategories
        rw [Action.consult_bind_apply, admitted]
      rw [refused] at returned
      cases returned
  | ok categories =>
      rw [writeCategories_of_checked admitted]
      exact ⟨categories, CategoryTable.table_of_checked admitted, rfl⟩

/-! ## The official categories -/

/-- The row says what the catalog says. -/
def OfficialCategory.Describes (category : OfficialCategory) (row : Category) : Prop :=
  row.name = category.name ∧ row.description = some category.description ∧
    row.isActive = true ∧ row.sortOrder = category.sortOrder

theorem findFirst?_upserted (category : OfficialCategory) (now : Time)
    (categories : CategoryTable) (slug : String) :
    ((upserted category now categories.table).findFirst? fun row => row.slug == slug) =
      if slug = category.slug then
        some (match categories.findBySlug? category.slug with
          | some row => officialRow category now row
          | none => createdRow category now categories.table.nextId)
      else
        categories.findBySlug? slug := by
  have same : categories.findBySlug? category.slug =
      categories.table.findFirst? fun row => row.slug == category.slug := rfl
  unfold upserted
  cases found : categories.findBySlug? category.slug with
  | none =>
      rw [← same, found]
      change ((createdRow category now categories.table.nextId :: categories.table.rows).find?
        fun row => row.slug == slug) = _
      rw [List.find?_cons]
      by_cases own : slug = category.slug
      · simp [own, createdRow]
      · have missed : (category.slug == slug) = false := beq_eq_false_iff_ne.mpr (Ne.symm own)
        simp only [createdRow, missed, if_neg own]
        rfl
  | some row =>
      obtain ⟨member, rowSlug⟩ := CategoryTable.findBySlug?_eq_some_iff.mp found
      have rewritten := findFirst?_update categories.table member categories.slugs
        (officialRow category now) (fun _ => rfl) (fun _ => rfl) slug
      rw [← same, found]
      refine rewritten.trans ?_
      rw [rowSlug]
      by_cases own : slug = category.slug
      · subst own
        rw [if_pos rfl, ← same, found]
        simp
      · rw [if_neg own]
        have unchanged : (fun other : Category =>
            if slug = category.slug then officialRow category now other else other) =
              fun other => other := by
          funext other
          rw [if_neg own]
        rw [unchanged]
        exact Option.map_id'

theorem OfficialCategory.describes_upserted (category : OfficialCategory) (now : Time)
    (categories : CategoryTable) :
    ∃ row, ((upserted category now categories.table).findFirst?
        fun row => row.slug == category.slug) = some row ∧ category.Describes row := by
  rw [findFirst?_upserted, if_pos rfl]
  refine ⟨_, rfl, ?_⟩
  cases categories.findBySlug? category.slug with
  | none =>
      exact ⟨rfl, rfl, rfl, rfl⟩
  | some row =>
      exact ⟨rfl, rfl, rfl, rfl⟩

/-- Upserting touches the categories only, and of these the official ones. -/
theorem upsertOfficial_spec (now : Time) {official : List OfficialCategory}
    (distinct : (official.map OfficialCategory.slug).Nodup) {database : CategoryDatabase}
    {result : Unit} (returned : (upsertOfficial now official database).result = .ok result) :
    ∃ categories,
      (upsertOfficial now official database).state =
        { database with categories := categories } ∧
      (∀ slug ∉ official.map OfficialCategory.slug,
        categories.findBySlug? slug = database.categories.findBySlug? slug) ∧
      ∀ category ∈ official, ∃ row,
        categories.findBySlug? category.slug = some row ∧ category.Describes row := by
  induction official generalizing database with
  | nil =>
      exact ⟨database.categories, rfl, fun _ _ => rfl, fun _ listed => nomatch listed⟩
  | cons category rest inductionHypothesis =>
      obtain ⟨fresh, distinctRest⟩ := List.nodup_cons.mp distinct
      obtain ⟨_, wrote, continued, sameState⟩ := Action.exists_of_bind_eq_ok returned
      obtain ⟨middle, table, state⟩ := exists_of_writeCategories wrote
      rw [state] at continued sameState
      obtain ⟨categories, final, others, described⟩ :=
        inductionHypothesis distinctRest continued
      have lookup : ∀ slug, middle.findBySlug? slug =
          (upserted category now database.categories.table).findFirst?
            fun row => row.slug == slug := by
        intro slug
        rw [CategoryTable.findBySlug?, table]
      refine ⟨categories, sameState.trans final, ?_, ?_⟩
      · intro slug absent
        have notOwn : slug ≠ category.slug := fun same => absent (same ▸ List.mem_cons_self)
        rw [others slug fun listed => absent (List.mem_cons_of_mem _ listed), lookup,
          findFirst?_upserted, if_neg notOwn]
      · intro other member
        rcases List.mem_cons.mp member with rfl | later
        · rw [others other.slug fresh, lookup]
          exact other.describes_upserted now database.categories
        · exact described other later

/-! ## One mapping -/

/-- The rows after a legacy category was deactivated. -/
def deactivatedRows (categories : CategoryTable) (legacy canonical : Category) (now : Time) :
    Table Category :=
  categories.table.update legacy.id (deactivatedRow canonical now)
    (deactivatedRow_key canonical now)

theorem names_deactivatedRows (categories : CategoryTable) (legacy canonical : Category)
    (now : Time) :
    ((deactivatedRows categories legacy canonical now).rows.map Category.name).Nodup := by
  have same : (deactivatedRows categories legacy canonical now).rows.map Category.name =
      categories.table.rows.map Category.name :=
    Table.map_rows_update _ _ _ _ fun _ => rfl
  exact (congrArg List.Nodup same).mpr categories.names

theorem slugs_deactivatedRows (categories : CategoryTable) (legacy canonical : Category)
    (now : Time) :
    ((deactivatedRows categories legacy canonical now).rows.map Category.slug).Nodup := by
  have same : (deactivatedRows categories legacy canonical now).rows.map Category.slug =
      categories.table.rows.map Category.slug :=
    Table.map_rows_update _ _ _ _ fun _ => rfl
  exact (congrArg List.Nodup same).mpr categories.slugs

def CategoryTable.deactivate (categories : CategoryTable) (legacy canonical : Category)
    (now : Time) : CategoryTable where
  table := deactivatedRows categories legacy canonical now
  names := names_deactivatedRows categories legacy canonical now
  slugs := slugs_deactivatedRows categories legacy canonical now

/-- The database after the transaction of one mapping. -/
def CategoryDatabase.migrated (database : CategoryDatabase) (mapping : LegacyCategoryMapping)
    (legacy canonical : Category) (now : Time) : CategoryDatabase where
  categories :=
    if legacy.isActive then database.categories.deactivate legacy canonical now
    else database.categories
  workerProfileCategories := movedLinks legacy.id canonical.id database.workerProfileCategories
  jobs := database.jobs.updateMany (isOfCategory legacy.id) (movedJob canonical.id)
    (movedJob_category_key canonical)
  serviceRequests := database.serviceRequests
  trackingCategoryAggregates := mergedAggregates mapping database.trackingCategoryAggregates

theorem migrateLegacy_apply (mapping : LegacyCategoryMapping) (legacy canonical : Category)
    (now : Time) (database : CategoryDatabase) :
    ∃ result, migrateLegacy mapping legacy canonical now database =
      ⟨.ok result, database.migrated mapping legacy canonical now, []⟩ := by
  unfold migrateLegacy
  rw [Action.inspect_bind_apply, Action.inspect_bind_apply, Action.inspect_bind_apply,
    Action.alter_bind_apply]
  by_cases active : legacy.isActive = true
  · have admitted : CategoryTable.checked (database.categories.table.update legacy.id
        (deactivatedRow canonical now)) =
          .ok (database.categories.deactivate legacy canonical now) :=
      CategoryTable.checked_of_unique _ _
    rw [if_pos active, Action.bind_of_ok (writeCategories_of_checked admitted)]
    simp only [CategoryDatabase.migrated, active, if_true]
    exact ⟨_, rfl⟩
  · rw [if_neg active]
    simp only [CategoryDatabase.migrated, active]
    exact ⟨_, rfl⟩

/-- Nothing but requests belongs to the legacy category of the mapping any more. -/
def LegacyCategoryMapping.Settled (mapping : LegacyCategoryMapping)
    (database : CategoryDatabase) : Prop :=
  ∀ legacy, database.categories.findBySlug? mapping.fromSlug = some legacy →
    legacy.isActive = false ∧
    (∀ link ∈ database.workerProfileCategories, link.2 ≠ legacy.id) ∧
    (∀ job ∈ database.jobs, job.categoryId ≠ legacy.id) ∧
    database.trackingCategoryAggregates.get? mapping.fromSlug = none

/-- All interactions counted for categories. -/
def CategoryDatabase.interactions (database : CategoryDatabase) : Int :=
  database.trackingCategoryAggregates.total TrackingCategoryAggregate.interactions

/-- What one mapping does to the database. -/
structure LegacyCategoryMapping.Moves (mapping : LegacyCategoryMapping)
    (before after : CategoryDatabase) : Prop where
  others : ∀ slug ≠ mapping.fromSlug,
    after.categories.findBySlug? slug = before.categories.findBySlug? slug
  identity : (after.categories.findBySlug? mapping.fromSlug).map Category.id =
    (before.categories.findBySlug? mapping.fromSlug).map Category.id
  settled : mapping.Settled after
  linked : ∀ legacy canonical,
    before.categories.findBySlug? mapping.fromSlug = some legacy →
    before.categories.findBySlug? mapping.toSlug = some canonical →
    ∀ worker, (worker, legacy.id) ∈ before.workerProfileCategories →
      (worker, canonical.id) ∈ after.workerProfileCategories
  links_kept : ∀ link ∈ before.workerProfileCategories,
    (∀ legacy, before.categories.findBySlug? mapping.fromSlug = some legacy →
      link.2 ≠ legacy.id) → link ∈ after.workerProfileCategories
  links_origin : ∀ link ∈ after.workerProfileCategories,
    link ∈ before.workerProfileCategories ∨
      ∃ canonical, before.categories.findBySlug? mapping.toSlug = some canonical ∧
        link.2 = canonical.id
  jobs_origin : ∀ job ∈ after.jobs,
    (∃ old ∈ before.jobs, job.categoryId = old.categoryId) ∨
      ∃ canonical, before.categories.findBySlug? mapping.toSlug = some canonical ∧
        job.categoryId = canonical.id
  uncounted : ∀ slug ≠ mapping.toSlug,
    before.trackingCategoryAggregates.get? slug = none →
      after.trackingCategoryAggregates.get? slug = none
  interactions : after.interactions = before.interactions
  requests : after.serviceRequests = before.serviceRequests

theorem findBySlug?_migrated {database : CategoryDatabase} {mapping : LegacyCategoryMapping}
    {legacy : Category} (canonical : Category) (now : Time)
    (found : database.categories.findBySlug? mapping.fromSlug = some legacy) (slug : String) :
    (database.migrated mapping legacy canonical now).categories.findBySlug? slug =
      if slug = mapping.fromSlug ∧ legacy.isActive = true then
        some (deactivatedRow canonical now legacy)
      else database.categories.findBySlug? slug := by
  obtain ⟨member, legacySlug⟩ := CategoryTable.findBySlug?_eq_some_iff.mp found
  by_cases active : legacy.isActive = true
  · have written : (database.migrated mapping legacy canonical now).categories =
        database.categories.deactivate legacy canonical now := if_pos active
    have rewritten := findFirst?_update database.categories.table member
      database.categories.slugs (deactivatedRow canonical now) (fun _ => rfl) (fun _ => rfl) slug
    rw [written]
    refine rewritten.trans ?_
    rw [legacySlug]
    by_cases own : slug = mapping.fromSlug
    · subst own
      have read : (database.categories.table.findFirst? fun other =>
        other.slug == mapping.fromSlug) = some legacy := found
      rw [read]
      simp [active]
    · rw [if_neg fun both => own both.1]
      have unchanged : (fun other : Category =>
          if slug = mapping.fromSlug then deactivatedRow canonical now other else other) =
            fun other => other := by
        funext other
        rw [if_neg own]
      rw [unchanged]
      exact Option.map_id'
  · have same : (database.migrated mapping legacy canonical now).categories =
        database.categories := if_neg active
    rw [same, if_neg fun both => active both.2]

theorem mem_jobs_migrated {database : CategoryDatabase} {mapping : LegacyCategoryMapping}
    {legacy canonical : Category} {now : Time} {job : Payments.Job} :
    job ∈ (database.migrated mapping legacy canonical now).jobs ↔
      ∃ old ∈ database.jobs, job =
        if isOfCategory legacy.id old = true then movedJob canonical.id old else old :=
  database.jobs.mem_updateMany (isOfCategory legacy.id) (movedJob canonical.id) fun _ => rfl

theorem mem_movedLinks {legacyId canonicalId : CategoryId} {links : Finset (Nat × CategoryId)}
    {link : Nat × CategoryId} :
    link ∈ movedLinks legacyId canonicalId links ↔
      link.2 ≠ legacyId ∧
        (link ∈ links ∨ (link.1, legacyId) ∈ links ∧ link.2 = canonicalId) := by
  obtain ⟨worker, category⟩ := link
  constructor
  · intro member
    obtain ⟨either, different⟩ := Finset.mem_filter.mp member
    refine ⟨different, ?_⟩
    rcases Finset.mem_union.mp either with kept | moved
    · exact Or.inl kept
    · obtain ⟨⟨other, old⟩, listed, same⟩ := Finset.mem_image.mp moved
      obtain ⟨stored, isLegacy⟩ := Finset.mem_filter.mp listed
      obtain ⟨rfl, rfl⟩ := Prod.mk.inj same
      obtain rfl : old = legacyId := isLegacy
      exact Or.inr ⟨stored, rfl⟩
  · intro stated
    obtain ⟨different, either⟩ := stated
    refine Finset.mem_filter.mpr ⟨Finset.mem_union.mpr ?_, different⟩
    rcases either with kept | ⟨stored, isCanonical⟩
    · exact Or.inl kept
    · obtain rfl : category = canonicalId := isCanonical
      exact Or.inr (Finset.mem_image.mpr
        ⟨(worker, legacyId), Finset.mem_filter.mpr ⟨stored, rfl⟩, rfl⟩)

theorem get?_mergedAggregates (mapping : LegacyCategoryMapping)
    (aggregates : Record String TrackingCategoryAggregate) {slug : String}
    (different : slug ≠ mapping.toSlug) :
    (mergedAggregates mapping aggregates).get? slug =
      if slug = mapping.fromSlug then none else aggregates.get? slug := by
  unfold mergedAggregates
  cases counted : aggregates.get? mapping.fromSlug with
  | none =>
      by_cases own : slug = mapping.fromSlug
      · simp [own, counted]
      · simp [own]
  | some legacyTracking =>
      dsimp only
      rw [Record.get?_erase, Record.get?_modify, if_neg different]

/-- The counts of the legacy slug are moved, not lost. -/
theorem total_mergedAggregates {mapping : LegacyCategoryMapping}
    (different : mapping.fromSlug ≠ mapping.toSlug)
    (aggregates : Record String TrackingCategoryAggregate) :
    (mergedAggregates mapping aggregates).total TrackingCategoryAggregate.interactions =
      aggregates.total TrackingCategoryAggregate.interactions := by
  unfold mergedAggregates
  cases counted : aggregates.get? mapping.fromSlug with
  | none =>
      rfl
  | some legacyTracking =>
      dsimp only
      have erased := Record.total_erase TrackingCategoryAggregate.interactions
        (aggregates.modify legacyTracking mapping.toSlug fun _ =>
          mergedAggregate (aggregates.get? mapping.toSlug) legacyTracking) mapping.fromSlug
      have modified := Record.total_modify TrackingCategoryAggregate.interactions aggregates
        legacyTracking mapping.toSlug fun _ =>
          mergedAggregate (aggregates.get? mapping.toSlug) legacyTracking
      rw [Record.get?_modify, if_neg different, counted] at erased
      cases canonical : aggregates.get? mapping.toSlug with
      | none =>
          rw [canonical] at erased modified
          simp only [Option.map_some, Option.getD_some, Option.map_none, Option.getD_none,
            mergedAggregate] at *
          omega
      | some canonicalTracking =>
          rw [canonical] at erased modified
          simp only [Option.map_some, Option.getD_some, mergedAggregate] at *
          omega

theorem LegacyCategoryMapping.moves_migrated {database : CategoryDatabase}
    {mapping : LegacyCategoryMapping} {legacy canonical : Category} (now : Time)
    (different : mapping.fromSlug ≠ mapping.toSlug)
    (found : database.categories.findBySlug? mapping.fromSlug = some legacy)
    (target : database.categories.findBySlug? mapping.toSlug = some canonical) :
    mapping.Moves database (database.migrated mapping legacy canonical now) where
  others := by
    intro slug other
    rw [findBySlug?_migrated canonical now found, if_neg fun both => other both.1]
  identity := by
    rw [findBySlug?_migrated canonical now found, found]
    split_ifs <;> rfl
  settled := by
    intro row stored
    have apart : canonical.id ≠ legacy.id :=
      CategoryTable.id_ne_of_found target found (Ne.symm different)
    rw [findBySlug?_migrated canonical now found] at stored
    have sameRow : row.isActive = false ∧ row.id = legacy.id := by
      by_cases active : legacy.isActive = true
      · rw [if_pos ⟨rfl, active⟩] at stored
        obtain rfl := Option.some.inj stored
        exact ⟨rfl, rfl⟩
      · rw [if_neg fun both => active both.2, found] at stored
        obtain rfl := Option.some.inj stored
        exact ⟨by simpa using active, rfl⟩
    rw [sameRow.2]
    refine ⟨sameRow.1, fun link member => (mem_movedLinks.mp member).1, ?_, ?_⟩
    · intro job member
      obtain ⟨old, _, rfl⟩ := mem_jobs_migrated.mp member
      by_cases own : isOfCategory legacy.id old = true
      · rw [if_pos own]
        exact apart
      · rw [if_neg own]
        simpa [isOfCategory] using own
    · change (mergedAggregates mapping _).get? mapping.fromSlug = none
      rw [get?_mergedAggregates mapping _ different, if_pos rfl]
  linked := by
    intro legacy' canonical' found' target' worker link
    obtain rfl := Option.some.inj (found.symm.trans found')
    obtain rfl := Option.some.inj (target.symm.trans target')
    have apart : canonical.id ≠ legacy.id :=
      CategoryTable.id_ne_of_found target found (Ne.symm different)
    exact mem_movedLinks.mpr ⟨apart, Or.inr ⟨link, rfl⟩⟩
  links_kept := by
    intro link member other
    exact mem_movedLinks.mpr ⟨other legacy found, Or.inl member⟩
  links_origin := by
    intro link member
    rcases (mem_movedLinks.mp member).2 with kept | ⟨_, moved⟩
    · exact Or.inl kept
    · exact Or.inr ⟨canonical, target, moved⟩
  jobs_origin := by
    intro job member
    obtain ⟨old, oldMember, rfl⟩ := mem_jobs_migrated.mp member
    by_cases own : isOfCategory legacy.id old = true
    · rw [if_pos own]
      exact Or.inr ⟨canonical, target, rfl⟩
    · rw [if_neg own]
      exact Or.inl ⟨old, oldMember, rfl⟩
  uncounted := by
    intro slug other none
    change (mergedAggregates mapping _).get? slug = _
    rw [get?_mergedAggregates mapping _ other, none]
    split_ifs <;> rfl
  interactions := total_mergedAggregates different database.trackingCategoryAggregates
  requests := rfl

theorem LegacyCategoryMapping.moves_of_absent {database : CategoryDatabase}
    {mapping : LegacyCategoryMapping}
    (absent : database.categories.findBySlug? mapping.fromSlug = none) :
    mapping.Moves database database where
  others _ _ := rfl
  identity := rfl
  settled := fun _ found => nomatch absent.symm.trans found
  linked := fun _ _ found => nomatch absent.symm.trans found
  links_kept _ member _ := member
  links_origin _ member := Or.inl member
  jobs_origin job member := Or.inl ⟨job, member, rfl⟩
  uncounted _ _ none := none
  interactions := rfl
  requests := rfl

/-- A migration finds nothing to do where it was done before. -/
theorem migrated_of_settled {database : CategoryDatabase} {mapping : LegacyCategoryMapping}
    {legacy : Category} (settled : mapping.Settled database) (canonical : Category) (now : Time)
    (found : database.categories.findBySlug? mapping.fromSlug = some legacy) :
    database.migrated mapping legacy canonical now = database := by
  obtain ⟨inactive, unlinked, unused, uncounted⟩ := settled legacy found
  have sameCategories : (database.migrated mapping legacy canonical now).categories =
      database.categories := if_neg (by simp [inactive])
  have sameLinks : movedLinks legacy.id canonical.id database.workerProfileCategories =
      database.workerProfileCategories := by
    ext link
    rw [mem_movedLinks]
    constructor
    · intro stated
      rcases stated.2 with kept | ⟨moved, _⟩
      · exact kept
      · exact absurd rfl (unlinked _ moved)
    · intro member
      exact ⟨unlinked link member, Or.inl member⟩
  have sameJobs : (database.migrated mapping legacy canonical now).jobs = database.jobs :=
    database.jobs.updateMany_eq_self (isOfCategory legacy.id) (movedJob canonical.id)
      (fun _ => rfl) fun job member => beq_eq_false_iff_ne.mpr (unused job member)
  have sameAggregates : mergedAggregates mapping database.trackingCategoryAggregates =
      database.trackingCategoryAggregates := by
    rw [mergedAggregates, uncounted]
  calc database.migrated mapping legacy canonical now
      = ⟨(database.migrated mapping legacy canonical now).categories,
          movedLinks legacy.id canonical.id database.workerProfileCategories,
          (database.migrated mapping legacy canonical now).jobs,
          database.serviceRequests,
          mergedAggregates mapping database.trackingCategoryAggregates⟩ := rfl
    _ = database := by rw [sameCategories, sameLinks, sameJobs, sameAggregates]

/-- The database after the loop's round for a mapping. -/
def CategoryDatabase.merged (database : CategoryDatabase) (mapping : LegacyCategoryMapping)
    (canonical : Category) (now : Time) : CategoryDatabase :=
  match database.categories.findBySlug? mapping.fromSlug with
  | none => database
  | some legacy => database.migrated mapping legacy canonical now

theorem LegacyCategoryMapping.moves_merged {database : CategoryDatabase}
    {mapping : LegacyCategoryMapping} {canonical : Category} (now : Time)
    (different : mapping.fromSlug ≠ mapping.toSlug)
    (target : database.categories.findBySlug? mapping.toSlug = some canonical) :
    mapping.Moves database (database.merged mapping canonical now) := by
  unfold CategoryDatabase.merged
  cases found : database.categories.findBySlug? mapping.fromSlug with
  | none =>
      exact moves_of_absent found
  | some legacy =>
      exact moves_migrated now different found target

theorem merged_of_settled {database : CategoryDatabase} {mapping : LegacyCategoryMapping}
    (settled : mapping.Settled database) (canonical : Category) (now : Time) :
    database.merged mapping canonical now = database := by
  unfold CategoryDatabase.merged
  cases found : database.categories.findBySlug? mapping.fromSlug with
  | none =>
      rfl
  | some legacy =>
      exact migrated_of_settled settled canonical now found

/-- The transaction is run if there is a legacy category. -/
theorem mergeLegacy_apply (now : Time) {mapping : LegacyCategoryMapping}
    (different : mapping.fromSlug ≠ mapping.toSlug) {database : CategoryDatabase}
    {canonical : Category}
    (target : database.categories.findBySlug? mapping.toSlug = some canonical)
    (summary : CategoriesSyncSummary) :
    ∃ final, mergeLegacy now mapping summary database =
      ⟨.ok final, database.merged mapping canonical now, []⟩ := by
  unfold mergeLegacy CategoryDatabase.merged
  rw [Action.inspect_bind_apply]
  cases found : database.categories.findBySlug? mapping.fromSlug with
  | none =>
      exact ⟨summary, rfl⟩
  | some legacy =>
      have apart : legacy.id ≠ canonical.id :=
        CategoryTable.id_ne_of_found found target different
      obtain ⟨result, migrated⟩ := migrateLegacy_apply mapping legacy canonical now database
      simp only [Action.consult_bind_apply, target]
      rw [if_neg apart, Action.bind_of_ok (Action.transaction_of_ok migrated)]
      exact ⟨summary.record result, rfl⟩

end Tchuno.Catalog
