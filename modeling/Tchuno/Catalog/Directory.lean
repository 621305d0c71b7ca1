import Tchuno.Catalog.Slugs
import Tchuno.Catalog.Synchronisation
import Tchuno.Library.Machine
import Tchuno.Library.Postconditions
import Tchuno.Payments.Gateway

/-!
# The directory

Categories are created, rewritten and deactivated, workers write their profiles and choose
their categories, and the official catalogue is synchronised at any time.
-/

namespace Tchuno.Catalog

open Tchuno.Library Tchuno.Library.Ecma Tchuno.Tracking
open Tchuno.Payments (ApiError orThrow)

/-! ## Categories -/

structure CreateCategoryDto where
  name : String
  slug : Option String
  description : Option String
  sortOrder : Option Int

structure UpdateCategoryDto where
  name : Option String
  slug : Option String
  description : Option String
  sortOrder : Option Int

/-- `handlePrismaConflict`: what breaks a unique constraint is a conflict. -/
def writtenCategories (table : Table Category) : Except ApiError CategoryTable :=
  (CategoryTable.checked table).mapError fun _ =>
    .conflict "Category name or slug already exists"

/-- `text.trim() || null` -/
def trimmedOrNull (text : String) : Option String :=
  truthy (some (trim text))

def CreateCategoryDto.row (dto : CreateCategoryDto) (slug : String) (now : Time)
    (id : CategoryId) : Category where
  id := id
  name := trim dto.name
  slug := slug
  description := dto.description.bind trimmedOrNull
  isActive := true
  sortOrder := dto.sortOrder.getD 0
  updatedAt := now

def createCategory (dto : CreateCategoryDto) (now : Time) (categories : CategoryTable) :
    Except ApiError CategoryTable := do
  let name := trim dto.name
  let slug ← normalizeSlug (dto.slug.getD name)
  writtenCategories (categories.table.insert (dto.row slug now) fun _ => rfl)

def ensureCategoryExists (id : CategoryId) (categories : CategoryTable) :
    Except ApiError Category :=
  orThrow (categories.table.find? id) (.notFound "Category not found")

def UpdateCategoryDto.rewrite (dto : UpdateCategoryDto) (slug : Option String) (now : Time)
    (row : Category) : Category :=
  { row with
    name := (dto.name.map trim).getD row.name
    slug := slug.getD row.slug
    description := dto.description.elim row.description trimmedOrNull
    sortOrder := dto.sortOrder.getD row.sortOrder
    updatedAt := now }

def updateCategory (id : CategoryId) (dto : UpdateCategoryDto) (now : Time)
    (categories : CategoryTable) : Except ApiError CategoryTable := do
  let _ ← ensureCategoryExists id categories
  let slug ← dto.slug.mapM normalizeSlug
  writtenCategories (categories.table.update id (dto.rewrite slug now) fun _ => rfl)

def deactivated (now : Time) (row : Category) : Category :=
  { row with isActive := false, updatedAt := now }

def removeCategory (id : CategoryId) (now : Time) (categories : CategoryTable) :
    Except ApiError CategoryTable := do
  let _ ← ensureCategoryExists id categories
  (CategoryTable.checked (categories.table.update id (deactivated now) fun _ => rfl)).mapError
    fun _ => .database "P2002"

/-! ## Profiles -/

inductive AvailabilityStatus where
  | availableNow | limitedThisWeek | nextWeek | unavailable
  deriving DecidableEq, Repr

structure WorkerProfile where
  id : Nat
  userId : Nat
  publicName : Option String
  bio : Option String
  location : Option String
  serviceAreaPreferences : List String
  hourlyRate : Option Int
  experienceYears : Int
  isAvailable : Bool
  availabilityStatus : AvailabilityStatus

instance : Keyed WorkerProfile := ⟨WorkerProfile.id⟩

structure UpsertWorkerProfileDto where
  publicName : Option String
  bio : Option String
  location : Option String
  hourlyRate : Option Int
  experienceYears : Option Int
  isAvailable : Option Bool
  availabilityStatus : Option AvailabilityStatus
  serviceAreaPreferences : Option (List String)
  categoryIds : Option (List CategoryId)

abbrev UpdateWorkerProfileDto := UpsertWorkerProfileDto

def normalizeServiceAreas (items : Option (List String)) : List String :=
  ((items.getD []).map trim).filter fun item => item ≠ ""

def resolveAvailabilityStatus (dto : UpsertWorkerProfileDto) : AvailabilityStatus :=
  dto.availabilityStatus.getD
    (if dto.isAvailable = some false then .unavailable else .availableNow)

def resolveIsAvailable (dto : UpsertWorkerProfileDto) : Bool :=
  (dto.availabilityStatus.map fun status => decide (status ≠ .unavailable)).getD
    (dto.isAvailable.getD true)

/-- `create` and `update` of the upsert write the same fields. -/
def UpsertWorkerProfileDto.row (dto : UpsertWorkerProfileDto) (userId id : Nat) :
    WorkerProfile where
  id := id
  userId := userId
  publicName := dto.publicName.bind trimmedOrNull
  bio := dto.bio.bind trimmedOrNull
  location := dto.location.bind trimmedOrNull
  serviceAreaPreferences := normalizeServiceAreas dto.serviceAreaPreferences
  hourlyRate := dto.hourlyRate
  experienceYears := dto.experienceYears.getD 0
  isAvailable := resolveIsAvailable dto
  availabilityStatus := resolveAvailabilityStatus dto

/-- The fields of the update, in the order in which they are spread: `isAvailable` last. -/
def UpsertWorkerProfileDto.rewrite (dto : UpsertWorkerProfileDto) (row : WorkerProfile) :
    WorkerProfile :=
  { row with
    publicName := dto.publicName.elim row.publicName trimmedOrNull
    bio := dto.bio.elim row.bio trimmedOrNull
    location := dto.location.elim row.location trimmedOrNull
    serviceAreaPreferences := dto.serviceAreaPreferences.elim row.serviceAreaPreferences
      fun items => normalizeServiceAreas (some items)
    hourlyRate := dto.hourlyRate.or row.hourlyRate
    experienceYears := dto.experienceYears.getD row.experienceYears
    isAvailable := dto.isAvailable.getD
      ((dto.availabilityStatus.map fun status => decide (status ≠ .unavailable)).getD
        row.isAvailable)
    availabilityStatus :=
      (dto.isAvailable.map fun isAvailable =>
        if isAvailable then AvailabilityStatus.availableNow else .unavailable).getD
          (dto.availabilityStatus.getD row.availabilityStatus) }

/-- What links there are between profiles and categories. -/
abbrev CategoryLinks := Finset (Nat × CategoryId)

def ensureCategoriesExist (categoryIds : List CategoryId) (categories : CategoryTable) :
    Except ApiError Unit :=
  if categoryIds = [] then .ok ()
  else
    let found := categories.table.findMany fun row =>
      categoryIds.contains row.id && row.isActive
    if found.length ≠ categoryIds.length then
      .error (.conflict "One or more categories are invalid or inactive")
    else
      .ok ()

/-- `deleteMany`, then `createMany` under the primary key of the links. -/
def replaceLinks (workerProfileId : Nat) (categoryIds : List CategoryId)
    (links : CategoryLinks) : Except ApiError CategoryLinks :=
  if categoryIds.Nodup then
    .ok (links.filter (fun link => link.1 ≠ workerProfileId) ∪
      (categoryIds.map fun categoryId => (workerProfileId, categoryId)).toFinset)
  else
    .error (.database "P2002")

structure Directory where
  database : CategoryDatabase
  profiles : Table WorkerProfile

namespace Directory

def profileOf? (userId : Nat) (directory : Directory) : Option WorkerProfile :=
  directory.profiles.findFirst? fun row => row.userId = userId

/-- The write of the profile and then of its links, in one transaction. -/
def writeProfile (profiles : Table WorkerProfile) (workerProfileId : Nat)
    (categoryIds : Option (List CategoryId)) (directory : Directory) :
    Except ApiError Directory :=
  match categoryIds with
  | none => .ok { directory with profiles := profiles }
  | some categoryIds => do
      let links ← replaceLinks workerProfileId categoryIds
        directory.database.workerProfileCategories
      pure
        { database := { directory.database with workerProfileCategories := links }
          profiles := profiles }

def upsertMe (userId : Nat) (dto : UpsertWorkerProfileDto) (directory : Directory) :
    Except ApiError Directory := do
  ensureCategoriesExist (dto.categoryIds.getD []) directory.database.categories
  match directory.profileOf? userId with
  | some profile =>
      directory.writeProfile
        (directory.profiles.update profile.id (fun row => dto.row row.userId row.id) fun _ => rfl)
        profile.id dto.categoryIds
  | none =>
      directory.writeProfile (directory.profiles.insert (dto.row userId) fun _ => rfl)
        directory.profiles.nextId dto.categoryIds

def updateMe (userId : Nat) (dto : UpdateWorkerProfileDto) (directory : Directory) :
    Except ApiError Directory := do
  let existing ← orThrow (directory.profileOf? userId) (.notFound "Worker profile not found")
  ensureCategoriesExist (dto.categoryIds.getD []) directory.database.categories
  directory.writeProfile
    (directory.profiles.update existing.id dto.rewrite fun _ => rfl) existing.id dto.categoryIds

def onCategories (change : CategoryTable → Except ApiError CategoryTable)
    (directory : Directory) : Except ApiError Directory := do
  let categories ← change directory.database.categories
  pure { directory with database := { directory.database with categories := categories } }

end Directory

/-! ## Calls -/

inductive DirectoryCall where
  | createCategory (dto : CreateCategoryDto) (now : Time)
  | updateCategory (id : CategoryId) (dto : UpdateCategoryDto) (now : Time)
  | removeCategory (id : CategoryId) (now : Time)
  | upsertMe (userId : Nat) (dto : UpsertWorkerProfileDto)
  | updateMe (userId : Nat) (dto : UpdateWorkerProfileDto)

/-- A call of the services, or a run of the synchronisation. -/
inductive DirectoryEvent where
  | call (request : DirectoryCall)
  | synchronise (now : Time)

def DirectoryCall.serve (directory : Directory) : DirectoryCall → Except ApiError Directory
  | .createCategory dto now => directory.onCategories (Catalog.createCategory dto now)
  | .updateCategory id dto now => directory.onCategories (Catalog.updateCategory id dto now)
  | .removeCategory id now => directory.onCategories (Catalog.removeCategory id now)
  | .upsertMe userId dto => directory.upsertMe userId dto
  | .updateMe userId dto => directory.updateMe userId dto

/-- A call that fails leaves no trace; a synchronisation that fails keeps what it wrote. -/
def DirectoryEvent.apply (directory : Directory) : DirectoryEvent → Directory
  | .call request => (request.serve directory).toOption.getD directory
  | .synchronise now =>
      { directory with database := (syncOfficialCategories now directory.database).state }

def directoryMachine : Machine Directory DirectoryEvent := ⟨DirectoryEvent.apply⟩

/-! ## What the checks have found -/

/-- Every identifier of an accepted list belongs to another active category. -/
theorem active_of_ensureCategoriesExist {categoryIds : List CategoryId}
    {categories : CategoryTable} {checked : Unit}
    (passed : ensureCategoriesExist categoryIds categories = .ok checked) :
    categoryIds.Nodup ∧ ∀ id ∈ categoryIds, ∃ row ∈ categories.table,
      row.id = id ∧ row.isActive = true := by
  unfold ensureCategoriesExist at passed
  dsimp only at passed
  split_ifs at passed with none count
  · subst none
    exact ⟨List.nodup_nil, fun id member => by cases member⟩
  · have found : ∀ id, id ∈ (categories.table.findMany fun row =>
        categoryIds.contains row.id && row.isActive).map Category.id →
          id ∈ categoryIds ∧ ∃ row ∈ categories.table, row.id = id ∧ row.isActive = true := by
      intro id member
      obtain ⟨row, listed, rfl⟩ := List.mem_map.mp member
      obtain ⟨present, accepted⟩ := List.mem_filter.mp listed
      rw [Bool.and_eq_true, List.contains_iff_mem] at accepted
      exact ⟨accepted.1, row, present, rfl, accepted.2⟩
    have distinct : ((categories.table.findMany fun row =>
        categoryIds.contains row.id && row.isActive).map Category.id).Nodup :=
      categories.table.distinct.sublist (List.filter_sublist.map _)
    have exhausted : ((categories.table.findMany fun row =>
        categoryIds.contains row.id && row.isActive).map Category.id).Perm categoryIds := by
      refine (distinct.subperm fun id member => (found id member).1).perm_of_length_le ?_
      rw [List.length_map]
      exact (not_not.mp count).ge
    exact ⟨exhausted.nodup_iff.mp distinct,
      fun id member => (found id (exhausted.mem_iff.mpr member)).2⟩

theorem exists_of_ensureCategoriesExist {categoryIds : List CategoryId}
    {categories : CategoryTable} {checked : Unit}
    (passed : ensureCategoriesExist categoryIds categories = .ok checked) :
    ∀ id ∈ categoryIds, ∃ row ∈ categories.table, row.id = id := by
  intro id member
  obtain ⟨row, present, same, -⟩ := (active_of_ensureCategoriesExist passed).2 id member
  exact ⟨row, present, same⟩

/-! ## Order -/

/-- The slug is one the queries admit, and the name is trimmed. -/
structure Category.Orderly (row : Category) : Prop where
  slug : matchesSlug row.slug = true
  name : trim row.name = row.name

/-- A text of a profile. -/
def IsProper (text : String) : Prop :=
  text ≠ "" ∧ trim text = text

structure WorkerProfile.Orderly (profile : WorkerProfile) : Prop where
  available : profile.isAvailable = decide (profile.availabilityStatus ≠ .unavailable)
  publicName : ∀ text ∈ profile.publicName, IsProper text
  bio : ∀ text ∈ profile.bio, IsProper text
  location : ∀ text ∈ profile.location, IsProper text
  areas : ∀ text ∈ profile.serviceAreaPreferences, IsProper text

structure CategoryDatabase.Orderly (database : CategoryDatabase) (isProfile : Nat → Prop) :
    Prop where
  categories : ∀ row ∈ database.categories.table, row.Orderly
  links : ∀ link ∈ database.workerProfileCategories,
    isProfile link.1 ∧ ∃ row ∈ database.categories.table, row.id = link.2

/-- A worker has one profile, in order, and no link hangs in the air. -/
structure Directory.Orderly (directory : Directory) : Prop where
  database : directory.database.Orderly fun id => ∃ profile ∈ directory.profiles, profile.id = id
  profiles : ∀ profile ∈ directory.profiles, profile.Orderly
  owners : (directory.profiles.rows.map WorkerProfile.userId).Nodup

/-! ## Writes to the categories -/

/-- A write which keeps every category and the order of the rows. -/
structure KeepsOrder (before after : Table Category) : Prop where
  rows : (∀ row ∈ before, row.Orderly) → ∀ row ∈ after, row.Orderly
  ids : ∀ row ∈ before, ∃ later ∈ after, later.id = row.id

theorem keepsOrder_insert {table : Table Category} {make : Nat → Category}
    (keyed : ∀ id, Keyed.key (make id) = id) (orderly : ∀ id, (make id).Orderly) :
    KeepsOrder table (table.insert make keyed) where
  rows := by
    intro before row member
    rcases Table.eq_or_mem_of_insert member with rfl | older
    · exact orderly _
    · exact before row older
  ids := fun row member => ⟨row, (table.mem_insert make keyed).mpr (.inr member), rfl⟩

theorem keepsOrder_update {table : Table Category} (id : CategoryId)
    {change : Category → Category} (keeps : ∀ row, Keyed.key (change row) = Keyed.key row)
    (orderly : ∀ row : Category, row.Orderly → (change row).Orderly) :
    KeepsOrder table (table.update id change keeps) where
  rows := by
    intro before row member
    obtain ⟨old, present, rfl⟩ := Table.exists_of_update member
    split_ifs
    · exact orderly old (before old present)
    · exact before old present
  ids := by
    intro row member
    refine ⟨_, (table.mem_update change keeps).mpr ⟨row, member, rfl⟩, ?_⟩
    split_ifs
    · exact keeps row
    · rfl

theorem CategoryDatabase.Orderly.keep {database : CategoryDatabase} {isProfile : Nat → Prop}
    (orderly : database.Orderly isProfile) {categories : CategoryTable}
    (keeps : KeepsOrder database.categories.table categories.table) :
    { database with categories := categories : CategoryDatabase }.Orderly isProfile where
  categories := keeps.rows orderly.categories
  links := by
    intro link member
    obtain ⟨profile, row, present, same⟩ := orderly.links link member
    obtain ⟨later, still, sameId⟩ := keeps.ids row present
    exact ⟨profile, later, still, sameId.trans same⟩

theorem table_of_writtenCategories {table : Table Category} {categories : CategoryTable}
    (written : writtenCategories table = .ok categories) : categories.table = table := by
  unfold writtenCategories at written
  cases checked : CategoryTable.checked table with
  | error error =>
      rw [checked] at written
      cases written
  | ok accepted =>
      rw [checked] at written
      cases written
      exact CategoryTable.table_of_checked checked

/-- A creation inserts one row under a normalised slug. -/
theorem exists_of_createCategory {dto : CreateCategoryDto} {now : Time}
    {before after : CategoryTable} (created : createCategory dto now before = .ok after) :
    ∃ slug, normalizeSlug (dto.slug.getD (trim dto.name)) = .ok slug ∧
      after.table = before.table.insert (dto.row slug now) fun _ => rfl := by
  unfold createCategory at created
  dsimp only at created
  cases normalized : normalizeSlug (dto.slug.getD (trim dto.name)) with
  | error error =>
      rw [normalized] at created
      cases created
  | ok slug =>
      rw [normalized] at created
      exact ⟨slug, rfl, table_of_writtenCategories created⟩

theorem createCategory_keeps {dto : CreateCategoryDto} {now : Time}
    {before after : CategoryTable} (created : createCategory dto now before = .ok after) :
    KeepsOrder before.table after.table := by
  obtain ⟨slug, normalized, written⟩ := exists_of_createCategory created
  rw [written]
  exact keepsOrder_insert _ fun id =>
    ⟨matchesSlug_of_normalizeSlug normalized, trim_trim dto.name⟩

/-- A rewritten slug is a normalised one, or the old one. -/
theorem orderly_rewrite {dto : UpdateCategoryDto} {slug : Option String}
    (normalized : dto.slug.mapM normalizeSlug = .ok slug) (now : Time) {row : Category}
    (orderly : row.Orderly) : (dto.rewrite slug now row).Orderly where
  slug := by
    cases given : dto.slug with
    | none =>
        rw [given] at normalized
        obtain rfl : none = slug := Except.ok.inj normalized
        exact orderly.slug
    | some text =>
        rw [given, Option.mapM_some] at normalized
        cases made : normalizeSlug text with
        | error error =>
            rw [made] at normalized
            cases normalized
        | ok result =>
            rw [made] at normalized
            obtain rfl : some result = slug := Except.ok.inj normalized
            exact matchesSlug_of_normalizeSlug made
  name := by
    cases given : dto.name with
    | none =>
        have same : (dto.rewrite slug now row).name = row.name := by
          rw [UpdateCategoryDto.rewrite, given]
          rfl
        rw [same]
        exact orderly.name
    | some name =>
        have same : (dto.rewrite slug now row).name = trim name := by
          rw [UpdateCategoryDto.rewrite, given]
          rfl
        rw [same]
        exact trim_trim name

theorem exists_of_updateCategory {id : CategoryId} {dto : UpdateCategoryDto} {now : Time}
    {before after : CategoryTable} (updated : updateCategory id dto now before = .ok after) :
    ∃ slug, dto.slug.mapM normalizeSlug = .ok slug ∧
      after.table = before.table.update id (dto.rewrite slug now) fun _ => rfl := by
  unfold updateCategory at updated
  cases present : ensureCategoryExists id before with
  | error error =>
      rw [present] at updated
      cases updated
  | ok row =>
      cases normalized : dto.slug.mapM normalizeSlug with
      | error error =>
          rw [present, normalized] at updated
          cases updated
      | ok slug =>
          rw [present, normalized] at updated
          exact ⟨slug, rfl, table_of_writtenCategories updated⟩

theorem updateCategory_keeps {id : CategoryId} {dto : UpdateCategoryDto} {now : Time}
    {before after : CategoryTable} (updated : updateCategory id dto now before = .ok after) :
    KeepsOrder before.table after.table := by
  obtain ⟨slug, normalized, written⟩ := exists_of_updateCategory updated
  rw [written]
  exact keepsOrder_update id _ fun row orderly => orderly_rewrite normalized now orderly

/-- Deactivating breaks no constraint. -/
theorem removeCategory_eq (id : CategoryId) (now : Time) (categories : CategoryTable) :
    (∃ row, ensureCategoryExists id categories = .ok row ∧
      ∃ after : CategoryTable, removeCategory id now categories = .ok after ∧
        after.table = categories.table.update id (deactivated now) fun _ => rfl) ∨
      removeCategory id now categories = .error (.notFound "Category not found") := by
  unfold removeCategory ensureCategoryExists
  cases found : categories.table.find? id with
  | none => exact .inr rfl
  | some row =>
      have names := categories.names
      have slugs := categories.slugs
      rw [← Table.map_rows_update categories.table (deactivated now) (fun _ => rfl) id
        fun _ => rfl] at names slugs
      refine .inl ⟨row, rfl, ⟨_, names, slugs⟩, ?_, rfl⟩
      have admitted := CategoryTable.checked_of_unique names slugs
      change (CategoryTable.checked _).mapError _ = _
      rw [admitted]
      rfl

theorem exists_of_removeCategory {id : CategoryId} {now : Time} {before after : CategoryTable}
    (removed : removeCategory id now before = .ok after) :
    ∃ row, before.table.find? id = some row ∧
      after.table = before.table.update id (deactivated now) fun _ => rfl := by
  rcases removeCategory_eq id now before with ⟨row, present, left, same, written⟩ | missing
  · obtain rfl : left = after := Except.ok.inj (same.symm.trans removed)
    refine ⟨row, ?_, written⟩
    unfold ensureCategoryExists at present
    cases found : before.table.find? id with
    | none =>
        rw [found] at present
        cases present
    | some other =>
        rw [found] at present
        exact congrArg some (Except.ok.inj present)
  · rw [missing] at removed
    cases removed

/-! ## The synchronisation -/

section Synchronisation

variable {isProfile : Nat → Prop} {database : CategoryDatabase}

theorem preserves_writeCategories {write : Table Category → Table Category}
    (keeps : ∀ table, KeepsOrder table (write table)) :
    Action.Preserves (CategoryDatabase.Orderly · isProfile) (writeCategories write) := by
  intro database orderly
  cases admitted : CategoryTable.checked (write database.categories.table) with
  | error error =>
      unfold writeCategories
      rw [Action.consult_bind_apply, admitted]
      exact orderly
  | ok categories =>
      rw [writeCategories_of_checked admitted]
      refine orderly.keep ?_
      rw [CategoryTable.table_of_checked admitted]
      exact keeps _

theorem upserted_keeps {category : OfficialCategory} (slug : matchesSlug category.slug = true)
    (name : trim category.name = category.name) (now : Time) (table : Table Category) :
    KeepsOrder table (upserted category now table) := by
  unfold upserted
  cases table.findFirst? fun row => row.slug == category.slug with
  | none => exact keepsOrder_insert _ fun id => ⟨slug, name⟩
  | some row => exact keepsOrder_update row.id _ fun old orderly => ⟨orderly.slug, name⟩

theorem preserves_upsertOfficial (now : Time) {official : List OfficialCategory}
    (proper : ∀ category ∈ official, matchesSlug category.slug = true ∧
      trim category.name = category.name) :
    Action.Preserves (CategoryDatabase.Orderly · isProfile) (upsertOfficial now official) := by
  induction official with
  | nil => exact Action.preserves_pure ()
  | cons category rest inductionHypothesis =>
      obtain ⟨slug, name⟩ := proper category List.mem_cons_self
      refine Action.preserves_bind (preserves_writeCategories (upserted_keeps slug name now)) ?_
      exact fun _ => inductionHypothesis fun other member =>
        proper other (List.mem_cons_of_mem _ member)

/-- The links of a legacy category move to one which exists. -/
theorem orderly_migrated (orderly : database.Orderly isProfile)
    (mapping : LegacyCategoryMapping) {legacy canonical : Category}
    (target : canonical ∈ database.categories.table) (now : Time) :
    (database.migrated mapping legacy canonical now).Orderly isProfile := by
  have keeps : KeepsOrder database.categories.table
      (database.migrated mapping legacy canonical now).categories.table := by
    unfold CategoryDatabase.migrated
    dsimp only
    split_ifs
    · exact keepsOrder_update legacy.id (deactivatedRow_key canonical now)
        fun old before => ⟨before.slug, before.name⟩
    · exact ⟨fun before => before, fun row member => ⟨row, member, rfl⟩⟩
  constructor
  · exact keeps.rows orderly.categories
  · intro link member
    obtain ⟨-, kept | ⟨moved, toCanonical⟩⟩ := mem_movedLinks.mp member
    · obtain ⟨profile, row, present, same⟩ := orderly.links link kept
      obtain ⟨later, still, sameId⟩ := keeps.ids row present
      exact ⟨profile, later, still, sameId.trans same⟩
    · obtain ⟨later, still, sameId⟩ := keeps.ids canonical target
      exact ⟨(orderly.links _ moved).1, later, still, sameId.trans toCanonical.symm⟩

theorem preserves_mergeLegacy (now : Time) (mapping : LegacyCategoryMapping)
    (summary : CategoriesSyncSummary) :
    Action.Preserves (CategoryDatabase.Orderly · isProfile)
      (mergeLegacy now mapping summary) := by
  intro database orderly
  unfold mergeLegacy
  rw [Action.inspect_bind_apply]
  cases found : database.categories.findBySlug? mapping.fromSlug with
  | none => exact orderly
  | some legacy =>
      simp only [Action.consult_bind_apply]
      cases target : database.categories.findBySlug? mapping.toSlug with
      | none => exact orderly
      | some canonical =>
          dsimp only
          split_ifs
          · exact orderly
          · obtain ⟨result, migrated⟩ := migrateLegacy_apply mapping legacy canonical now database
            rw [Action.bind_of_ok (Action.transaction_of_ok migrated)]
            exact orderly_migrated orderly mapping
              (CategoryTable.findBySlug?_eq_some_iff.mp target).1 now

theorem preserves_mergeAll (now : Time) (mappings : List LegacyCategoryMapping)
    (summary : CategoriesSyncSummary) :
    Action.Preserves (CategoryDatabase.Orderly · isProfile) (mergeAll now mappings summary) := by
  induction mappings generalizing summary with
  | nil => exact Action.preserves_pure summary
  | cons mapping rest inductionHypothesis =>
      exact Action.preserves_bind (preserves_mergeLegacy now mapping summary)
        inductionHypothesis

theorem official_proper : ∀ category ∈ officialCatalog.official,
    matchesSlug category.slug = true ∧ trim category.name = category.name := by
  decide

/-- Whether a synchronisation succeeds or stops half-way, the categories stay in order. -/
theorem preserves_syncOfficialCategories (now : Time) :
    Action.Preserves (CategoryDatabase.Orderly · isProfile) (syncOfficialCategories now) :=
  Action.preserves_bind (preserves_upsertOfficial now official_proper) fun _ =>
    preserves_mergeAll now _ _

end Synchronisation

/-! ## Writes to the profiles -/

theorem isProper_of_trimmedOrNull {text proper : String}
    (kept : proper ∈ trimmedOrNull text) : IsProper proper := by
  have filtered : (some (trim text)).filter (fun present => decide (present ≠ "")) =
      some proper := kept
  obtain ⟨same, filled⟩ := Option.filter_eq_some_iff.mp filtered
  obtain rfl := Option.some.inj same
  exact ⟨of_decide_eq_true filled, trim_trim text⟩

theorem isProper_of_bind {given : Option String} {proper : String}
    (kept : proper ∈ given.bind trimmedOrNull) : IsProper proper := by
  obtain ⟨text, -, made⟩ := Option.bind_eq_some_iff.mp kept
  exact isProper_of_trimmedOrNull made

theorem isProper_of_elim {given old : Option String} (before : ∀ text ∈ old, IsProper text)
    {proper : String} (kept : proper ∈ given.elim old trimmedOrNull) : IsProper proper := by
  cases given with
  | none => exact before proper kept
  | some text => exact isProper_of_trimmedOrNull kept

theorem isProper_of_normalizeServiceAreas {items : Option (List String)} {proper : String}
    (member : proper ∈ normalizeServiceAreas items) : IsProper proper := by
  obtain ⟨listed, filled⟩ := List.mem_filter.mp member
  obtain ⟨text, -, rfl⟩ := List.mem_map.mp listed
  exact ⟨of_decide_eq_true filled, trim_trim text⟩

theorem orderly_row (dto : UpsertWorkerProfileDto) (userId id : Nat) :
    (dto.row userId id).Orderly where
  available := by
    change resolveIsAvailable dto = decide (resolveAvailabilityStatus dto ≠ .unavailable)
    unfold resolveIsAvailable resolveAvailabilityStatus
    cases dto.availabilityStatus with
    | some status => rfl
    | none =>
        cases dto.isAvailable with
        | none => rfl
        | some isAvailable => cases isAvailable <;> rfl
  publicName := fun _ => isProper_of_bind
  bio := fun _ => isProper_of_bind
  location := fun _ => isProper_of_bind
  areas := fun _ => isProper_of_normalizeServiceAreas

/-- Whichever of the two availabilities is given, both are written. -/
theorem orderly_rewriteProfile (dto : UpdateWorkerProfileDto) {row : WorkerProfile}
    (orderly : row.Orderly) : (UpsertWorkerProfileDto.rewrite dto row).Orderly where
  available := by
    rw [UpsertWorkerProfileDto.rewrite]
    dsimp only
    cases dto.isAvailable with
    | some isAvailable => cases isAvailable <;> rfl
    | none =>
        cases dto.availabilityStatus with
        | some status => rfl
        | none => exact orderly.available
  publicName := fun _ => isProper_of_elim orderly.publicName
  bio := fun _ => isProper_of_elim orderly.bio
  location := fun _ => isProper_of_elim orderly.location
  areas := by
    intro text member
    rw [UpsertWorkerProfileDto.rewrite] at member
    dsimp only at member
    cases given : dto.serviceAreaPreferences with
    | none =>
        rw [given] at member
        exact orderly.areas text member
    | some items =>
        rw [given] at member
        exact isProper_of_normalizeServiceAreas member

theorem mem_of_replaceLinks {workerProfileId : Nat} {categoryIds : List CategoryId}
    {before after : CategoryLinks}
    (replaced : replaceLinks workerProfileId categoryIds before = .ok after)
    {link : Nat × CategoryId} (member : link ∈ after) :
    link ∈ before ∨ link.1 = workerProfileId ∧ link.2 ∈ categoryIds := by
  unfold replaceLinks at replaced
  split_ifs at replaced
  cases replaced
  rcases Finset.mem_union.mp member with kept | made
  · exact .inl (Finset.mem_filter.mp kept).1
  · obtain ⟨categoryId, listed, rfl⟩ := List.mem_map.mp (List.mem_toFinset.mp made)
    exact .inr ⟨rfl, listed⟩

namespace Directory

variable {directory after : Directory}

theorem profileOf?_eq_some {userId : Nat} {profile : WorkerProfile}
    (found : directory.profileOf? userId = some profile) :
    profile ∈ directory.profiles ∧ profile.userId = userId := by
  obtain ⟨member, accepted⟩ := directory.profiles.mem_of_findFirst? found
  exact ⟨member, of_decide_eq_true accepted⟩

/-- What an upsert has checked, and which of its two writes it made. -/
theorem exists_of_upsertMe {userId : Nat} {dto : UpsertWorkerProfileDto}
    (upserted : directory.upsertMe userId dto = .ok after) :
    (∃ passed, ensureCategoriesExist (dto.categoryIds.getD [])
        directory.database.categories = .ok passed) ∧
      ((∃ profile, directory.profileOf? userId = some profile ∧
          directory.writeProfile (directory.profiles.update profile.id
            (fun row => dto.row row.userId row.id) fun _ => rfl) profile.id dto.categoryIds =
              .ok after) ∨
        (directory.profileOf? userId = none ∧
          directory.writeProfile (directory.profiles.insert (dto.row userId) fun _ => rfl)
            directory.profiles.nextId dto.categoryIds = .ok after)) := by
  unfold Directory.upsertMe at upserted
  cases checked : ensureCategoriesExist (dto.categoryIds.getD [])
      directory.database.categories with
  | error error =>
      rw [checked] at upserted
      cases upserted
  | ok passed =>
      rw [checked] at upserted
      refine ⟨⟨passed, rfl⟩, ?_⟩
      change (match directory.profileOf? userId with | some _ => _ | none => _) = _ at upserted
      cases found : directory.profileOf? userId with
      | some profile =>
          rw [found] at upserted
          exact .inl ⟨profile, rfl, upserted⟩
      | none =>
          rw [found] at upserted
          exact .inr ⟨rfl, upserted⟩

theorem exists_of_updateMe {userId : Nat} {dto : UpdateWorkerProfileDto}
    (updated : directory.updateMe userId dto = .ok after) :
    ∃ existing passed, directory.profileOf? userId = some existing ∧
      ensureCategoriesExist (dto.categoryIds.getD []) directory.database.categories =
        .ok passed ∧
      directory.writeProfile (directory.profiles.update existing.id dto.rewrite fun _ => rfl)
        existing.id dto.categoryIds = .ok after := by
  unfold Directory.updateMe at updated
  cases found : directory.profileOf? userId with
  | none =>
      rw [found] at updated
      cases updated
  | some existing =>
      rw [found] at updated
      cases checked : ensureCategoriesExist (dto.categoryIds.getD [])
          directory.database.categories with
      | error error =>
          rw [checked] at updated
          cases updated
      | ok passed =>
          rw [checked] at updated
          exact ⟨existing, passed, rfl, rfl, updated⟩

/-- The write of a profile touches the profiles and the links. -/
theorem exists_of_writeProfile {profiles : Table WorkerProfile} {workerProfileId : Nat}
    {categoryIds : Option (List CategoryId)}
    (written : directory.writeProfile profiles workerProfileId categoryIds = .ok after) :
    ∃ links, after = ⟨{ directory.database with workerProfileCategories := links }, profiles⟩ ∧
      ∀ link ∈ links, link ∈ directory.database.workerProfileCategories ∨
        link.1 = workerProfileId ∧ link.2 ∈ categoryIds.getD [] := by
  unfold Directory.writeProfile at written
  cases categoryIds with
  | none =>
      obtain rfl := Except.ok.inj written
      exact ⟨_, rfl, fun link member => .inl member⟩
  | some categoryIds =>
      dsimp only at written
      cases replaced : replaceLinks workerProfileId categoryIds
          directory.database.workerProfileCategories with
      | error error =>
          rw [replaced] at written
          cases written
      | ok links =>
          rw [replaced] at written
          obtain rfl := Except.ok.inj written
          exact ⟨links, rfl, fun link member => mem_of_replaceLinks replaced member⟩

/-- A change of the categories touches nothing else. -/
theorem exists_of_onCategories {change : CategoryTable → Except ApiError CategoryTable}
    (changed : directory.onCategories change = .ok after) :
    ∃ categories, change directory.database.categories = .ok categories ∧
      after = { directory with
        database := { directory.database with categories := categories } } := by
  unfold Directory.onCategories at changed
  cases made : change directory.database.categories with
  | error error =>
      rw [made] at changed
      cases changed
  | ok categories =>
      rw [made] at changed
      exact ⟨categories, rfl, (Except.ok.inj changed).symm⟩

/-! ## The directory stays in order -/

/-- A write of profiles in order, whose links lead somewhere, keeps the directory in order. -/
theorem Orderly.writeProfile (orderly : directory.Orderly) {profiles : Table WorkerProfile}
    {workerProfileId : Nat} {categoryIds : Option (List CategoryId)}
    (each : ∀ profile ∈ profiles, profile.Orderly)
    (owners : (profiles.rows.map WorkerProfile.userId).Nodup)
    (kept : ∀ profile ∈ directory.profiles, ∃ later ∈ profiles, later.id = profile.id)
    (own : ∃ profile ∈ profiles, profile.id = workerProfileId)
    (known : ∀ id ∈ categoryIds.getD [], ∃ row ∈ directory.database.categories.table, row.id = id)
    (written : directory.writeProfile profiles workerProfileId categoryIds = .ok after) :
    after.Orderly := by
  obtain ⟨links, rfl, made⟩ := exists_of_writeProfile written
  refine ⟨⟨orderly.database.categories, fun link member => ?_⟩, each, owners⟩
  rcases made link member with old | ⟨same, listed⟩
  · obtain ⟨⟨profile, present, same⟩, category⟩ := orderly.database.links link old
    obtain ⟨later, still, sameId⟩ := kept profile present
    exact ⟨⟨later, still, sameId.trans same⟩, category⟩
  · rw [same]
    exact ⟨own, known link.2 listed⟩

/-- A rewrite which keeps the owners. -/
theorem Orderly.rewriteProfile (orderly : directory.Orderly) {existing : WorkerProfile}
    (present : existing ∈ directory.profiles) {change : WorkerProfile → WorkerProfile}
    (keeps : ∀ row, Keyed.key (change row) = Keyed.key row)
    (keepsOwner : ∀ row, (change row).userId = row.userId)
    (proper : ∀ row : WorkerProfile, row.Orderly → (change row).Orderly)
    {categoryIds : Option (List CategoryId)}
    (known : ∀ id ∈ categoryIds.getD [], ∃ row ∈ directory.database.categories.table, row.id = id)
    (written : directory.writeProfile (directory.profiles.update existing.id change keeps)
      existing.id categoryIds = .ok after) : after.Orderly := by
  have kept : ∀ profile ∈ directory.profiles,
      ∃ later ∈ directory.profiles.update existing.id change keeps, later.id = profile.id := by
    intro profile member
    refine ⟨_, (directory.profiles.mem_update change keeps).mpr ⟨profile, member, rfl⟩, ?_⟩
    split_ifs
    · exact keeps profile
    · rfl
  refine orderly.writeProfile ?_ ?_ kept (kept existing present) known written
  · intro profile member
    obtain ⟨old, was, rfl⟩ := Table.exists_of_update member
    split_ifs
    · exact proper old (orderly.profiles old was)
    · exact orderly.profiles old was
  · rw [Table.map_rows_update _ _ _ _ keepsOwner]
    exact orderly.owners

theorem Orderly.upsertMe (orderly : directory.Orderly) {userId : Nat}
    {dto : UpsertWorkerProfileDto} (upserted : directory.upsertMe userId dto = .ok after) :
    after.Orderly := by
  obtain ⟨⟨passed, checked⟩, ⟨profile, found, written⟩ | ⟨found, written⟩⟩ :=
    exists_of_upsertMe upserted
  · refine orderly.rewriteProfile (profileOf?_eq_some found).1 _ ?_ ?_
      (exists_of_ensureCategoriesExist checked) written
    · exact fun row => rfl
    · exact fun row _ => orderly_row dto row.userId row.id
  · refine orderly.writeProfile ?_ ?_ ?_ ?_ (exists_of_ensureCategoriesExist checked) written
    · intro profile member
      rcases Table.eq_or_mem_of_insert member with rfl | older
      · exact orderly_row dto userId _
      · exact orderly.profiles profile older
    · refine List.nodup_cons.mpr ⟨fun taken => ?_, orderly.owners⟩
      obtain ⟨profile, member, same⟩ := List.mem_map.mp taken
      have missing := directory.profiles.findFirst?_eq_none_iff.mp found profile member
      exact missing (decide_eq_true same)
    · exact fun profile member =>
        ⟨profile, (directory.profiles.mem_insert _ _).mpr (.inr member), rfl⟩
    · exact ⟨_, (directory.profiles.mem_insert _ _).mpr (.inl rfl), rfl⟩

theorem Orderly.updateMe (orderly : directory.Orderly) {userId : Nat}
    {dto : UpdateWorkerProfileDto} (updated : directory.updateMe userId dto = .ok after) :
    after.Orderly := by
  obtain ⟨existing, passed, found, checked, written⟩ := exists_of_updateMe updated
  refine orderly.rewriteProfile (profileOf?_eq_some found).1 _ ?_ ?_
    (exists_of_ensureCategoriesExist checked) written
  · exact fun row => rfl
  · exact fun row before => orderly_rewriteProfile dto before

theorem Orderly.onCategories (orderly : directory.Orderly)
    {change : CategoryTable → Except ApiError CategoryTable}
    (keeps : ∀ categories, change directory.database.categories = .ok categories →
      KeepsOrder directory.database.categories.table categories.table)
    (changed : directory.onCategories change = .ok after) : after.Orderly := by
  obtain ⟨categories, made, rfl⟩ := exists_of_onCategories changed
  exact ⟨orderly.database.keep (keeps categories made), orderly.profiles, orderly.owners⟩

theorem Orderly.serve (orderly : directory.Orderly) {call : DirectoryCall}
    (served : call.serve directory = .ok after) : after.Orderly := by
  cases call with
  | createCategory dto now =>
      exact orderly.onCategories (fun _ created => createCategory_keeps created) served
  | updateCategory id dto now =>
      exact orderly.onCategories (fun _ updated => updateCategory_keeps updated) served
  | removeCategory id now =>
      refine orderly.onCategories (fun categories removed => ?_) served
      rcases removeCategory_eq id now directory.database.categories with
        ⟨row, -, after, same, written⟩ | missing
      · obtain rfl := Except.ok.inj (same.symm.trans removed)
        rw [written]
        exact keepsOrder_update id _ fun old before => ⟨before.slug, before.name⟩
      · cases missing.symm.trans removed
  | upsertMe userId dto => exact orderly.upsertMe served
  | updateMe userId dto => exact orderly.updateMe served

theorem Orderly.apply (orderly : directory.Orderly) (event : DirectoryEvent) :
    (event.apply directory).Orderly := by
  cases event with
  | call request =>
      rw [DirectoryEvent.apply]
      cases served : request.serve directory with
      | error error => exact orderly
      | ok after => exact orderly.serve served
  | synchronise now =>
      exact ⟨preserves_syncOfficialCategories now _ orderly.database, orderly.profiles,
        orderly.owners⟩

end Directory

/-! ## What no call runs into -/

/-- No constraint of the database is what stopped the call. -/
def IsPlain {α : Type} (result : Except ApiError α) : Prop :=
  ∀ code, result ≠ .error (.database code)

section Plain

variable {α β : Type}

theorem isPlain_ok (value : α) : IsPlain (.ok value) :=
  fun _ failed => by cases failed

theorem isPlain_bind {first : Except ApiError α} {next : α → Except ApiError β}
    (early : IsPlain first) (late : ∀ value, first = .ok value → IsPlain (next value)) :
    IsPlain (first >>= next) := by
  cases first with
  | error error =>
      intro code failed
      exact early code (congrArg Except.error (Except.error.inj failed))
  | ok value => exact late value rfl

theorem isPlain_orThrow {found : Option α} {message : String} :
    IsPlain (orThrow found (.notFound message)) := by
  cases found with
  | none => exact fun _ failed => by cases failed
  | some value => exact isPlain_ok value

end Plain

theorem isPlain_normalizeSlug (text : String) : IsPlain (normalizeSlug text) := by
  unfold normalizeSlug
  dsimp only
  split_ifs
  · exact fun _ failed => by cases failed
  · exact isPlain_ok _

theorem isPlain_mapM (slug : Option String) : IsPlain (slug.mapM normalizeSlug) := by
  cases slug with
  | none => exact isPlain_ok none
  | some text =>
      have plain := isPlain_normalizeSlug text
      rw [Option.mapM_some]
      cases made : normalizeSlug text with
      | error error =>
          intro code failed
          exact plain code (made.trans (congrArg Except.error (Except.error.inj failed)))
      | ok result => exact isPlain_ok (some result)

theorem isPlain_writtenCategories (table : Table Category) :
    IsPlain (writtenCategories table) := by
  unfold writtenCategories
  cases CategoryTable.checked table with
  | error error => exact fun _ failed => by cases failed
  | ok categories => exact isPlain_ok categories

theorem isPlain_removeCategory (id : CategoryId) (now : Time) (categories : CategoryTable) :
    IsPlain (removeCategory id now categories) := by
  rcases removeCategory_eq id now categories with ⟨row, -, after, removed, -⟩ | missing
  · rw [removed]
    exact isPlain_ok after
  · rw [missing]
    exact fun _ failed => by cases failed

theorem isPlain_ensureCategoriesExist (categoryIds : List CategoryId)
    (categories : CategoryTable) : IsPlain (ensureCategoriesExist categoryIds categories) := by
  unfold ensureCategoriesExist
  dsimp only
  split_ifs
  · exact isPlain_ok ()
  · exact fun _ failed => by cases failed
  · exact isPlain_ok ()

/-- A list which passed the check breaks no primary key. -/
theorem isPlain_writeProfile {directory : Directory} {categoryIds : Option (List CategoryId)}
    (distinct : (categoryIds.getD []).Nodup) (profiles : Table WorkerProfile)
    (workerProfileId : Nat) :
    IsPlain (directory.writeProfile profiles workerProfileId categoryIds) := by
  cases categoryIds with
  | none => exact isPlain_ok _
  | some categoryIds =>
      have replaced : replaceLinks workerProfileId categoryIds
          directory.database.workerProfileCategories = .ok _ := if_pos distinct
      unfold Directory.writeProfile
      dsimp only
      rw [replaced]
      exact isPlain_ok _

theorem isPlain_serve (call : DirectoryCall) (directory : Directory) :
    IsPlain (call.serve directory) := by
  cases call with
  | createCategory dto now =>
      refine isPlain_bind ?_ fun categories _ => isPlain_ok _
      exact isPlain_bind (isPlain_normalizeSlug _) fun slug _ => isPlain_writtenCategories _
  | updateCategory id dto now =>
      refine isPlain_bind ?_ fun categories _ => isPlain_ok _
      refine isPlain_bind isPlain_orThrow fun row _ => ?_
      exact isPlain_bind (isPlain_mapM dto.slug) fun slug _ => isPlain_writtenCategories _
  | removeCategory id now =>
      exact isPlain_bind (isPlain_removeCategory id now _) fun categories _ => isPlain_ok _
  | upsertMe userId dto =>
      refine isPlain_bind (isPlain_ensureCategoriesExist _ _) fun passed checked => ?_
      have distinct := (active_of_ensureCategoriesExist checked).1
      cases directory.profileOf? userId with
      | none => exact isPlain_writeProfile distinct _ _
      | some profile => exact isPlain_writeProfile distinct _ _
  | updateMe userId dto =>
      refine isPlain_bind isPlain_orThrow fun existing _ => ?_
      refine isPlain_bind (isPlain_ensureCategoriesExist _ _) fun passed checked => ?_
      exact isPlain_writeProfile (active_of_ensureCategoriesExist checked).1 _ _

/-- Whatever is called, and however often the catalogue is synchronised in between, the
directory stays in order, and no call is stopped by a constraint its checks left open. -/
theorem directory_stays_orderly {directory : Directory} (orderly : directory.Orderly)
    (events : List DirectoryEvent) :
    (directoryMachine.run directory events).Orderly ∧
      ∀ call : DirectoryCall, IsPlain (call.serve (directoryMachine.run directory events)) :=
  ⟨directoryMachine.run_preserves Directory.Orderly
      (fun _ event before => Directory.Orderly.apply before event) orderly events,
    fun call => isPlain_serve call _⟩

def emptyDirectory : Directory where
  database :=
    { categories := ⟨Table.empty, List.nodup_nil, List.nodup_nil⟩
      workerProfileCategories := ∅
      jobs := Table.empty
      serviceRequests := Table.empty
      trackingCategoryAggregates := .empty }
  profiles := Table.empty

theorem emptyDirectory_orderly : emptyDirectory.Orderly where
  database :=
    { categories := fun row member => by cases member
      links := fun link member => absurd member (Finset.notMem_empty link) }
  profiles := fun profile member => by cases member
  owners := List.nodup_nil

/-- A worker who chooses a category which a synchronisation then takes over. -/
def sampleDirectoryEvents : List DirectoryEvent :=
  [.call (.createCategory ⟨" Eletricidade ", none, none, none⟩ 10),
    .call (.upsertMe 7 ⟨some " Ana ", none, none, none, none, some true, none, none, some [0]⟩),
    .synchronise 20,
    .call (.updateMe 7 ⟨none, some "", none, none, none, none, some .unavailable, none, none⟩)]

theorem sampleDirectoryEvents_orderly :
    emptyDirectory.profiles.rows = [] ∧
      (directoryMachine.run emptyDirectory sampleDirectoryEvents).Orderly :=
  ⟨rfl, (directory_stays_orderly emptyDirectory_orderly sampleDirectoryEvents).1⟩

end Tchuno.Catalog
