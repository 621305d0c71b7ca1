import Mathlib.Data.Finset.Card
import Tchuno.Library.Action
import Tchuno.Library.Records
import Tchuno.Payments.Schema
import Tchuno.Tracking.Events

/-!
# Synchronisation of the official categories

`syncOfficialCategories`: the official categories are upserted by their slugs, and what
belongs to a legacy category is moved to the category which replaces it.  The timestamps of
one run are written as one time.
-/

namespace Tchuno.Catalog

open Tchuno.Library Tchuno.Tracking

/-! ## The catalog -/

structure OfficialCategory where
  name : String
  slug : String
  description : String
  sortOrder : Int

structure LegacyCategoryMapping where
  fromSlug : String
  toSlug : String

/-- Official categories with distinct slugs, and mappings to them.  No legacy category is
itself official, and each is mapped once. -/
structure CategoryCatalog where
  official : List OfficialCategory
  mappings : List LegacyCategoryMapping
  slugs_distinct : (official.map OfficialCategory.slug).Nodup
  toSlug_official : ∀ mapping ∈ mappings,
    mapping.toSlug ∈ official.map OfficialCategory.slug
  fromSlug_legacy : ∀ mapping ∈ mappings,
    mapping.fromSlug ∉ official.map OfficialCategory.slug
  fromSlug_distinct : (mappings.map LegacyCategoryMapping.fromSlug).Nodup

def officialCategories : List OfficialCategory :=
  [⟨"Canalização", "canalizacao", "Instalação e reparação de sistemas de água e saneamento", 10⟩,
    ⟨"Eletricista", "eletricista",
      "Instalações e manutenção elétrica residencial e comercial", 20⟩,
    ⟨"Reparações Domésticas", "reparacoes-domesticas",
      "Pequenas reparações gerais para casa e apartamento", 30⟩,
    ⟨"Construção", "construcao", "Serviços de construção, alvenaria e remodelação", 40⟩,
    ⟨"Pintura", "pintura", "Pintura de interiores, exteriores e acabamentos", 50⟩,
    ⟨"Carpintaria", "carpintaria",
      "Móveis sob medida, portas, janelas e estruturas em madeira", 60⟩,
    ⟨"Limpeza", "limpeza", "Limpeza residencial, comercial e pós-obra", 70⟩,
    ⟨"Jardinagem", "jardinagem", "Manutenção de jardins, relvados e espaços verdes", 80⟩,
    ⟨"Transporte & Mudanças", "transporte-mudancas",
      "Mudanças locais, transporte de móveis e logística leve", 90⟩,
    ⟨"Montagem & Instalação", "montagem-instalacao",
      "Montagem de móveis e instalação de equipamentos", 100⟩,
    ⟨"Refrigeração & AVAC", "refrigeracao-avac",
      "Instalação e manutenção de ar condicionado e refrigeração", 110⟩,
    ⟨"Mecânica Automóvel", "mecanica-automovel", "Diagnóstico e reparação de viaturas", 120⟩,
    ⟨"Beleza & Estética", "beleza-estetica",
      "Serviços de beleza, cuidados pessoais e estética", 130⟩,
    ⟨"Serviços Domésticos", "servicos-domesticos",
      "Apoio doméstico recorrente e serviços para o lar", 140⟩]

def legacyCategoryMappings : List LegacyCategoryMapping :=
  [⟨"eletricidade", "eletricista"⟩]

def officialCatalog : CategoryCatalog where
  official := officialCategories
  mappings := legacyCategoryMappings
  slugs_distinct := by decide
  toSlug_official := by decide
  fromSlug_legacy := by decide
  fromSlug_distinct := by decide

/-! ## The database -/

abbrev CategoryId := Nat

structure Category where
  id : CategoryId
  name : String
  slug : String
  description : Option String
  isActive : Bool
  sortOrder : Int
  updatedAt : Time

instance : Keyed Category := ⟨Category.id⟩

@[simp] theorem key_category (category : Category) : Keyed.key category = category.id := rfl

/-- Categories with distinct names and distinct slugs. -/
structure CategoryTable where
  table : Table Category
  names : (table.rows.map Category.name).Nodup
  slugs : (table.rows.map Category.slug).Nodup

/-- The tables which refer to categories: links of worker profiles, jobs and requests by
identifier, the counts of the tracking by slug. -/
structure CategoryDatabase where
  categories : CategoryTable
  workerProfileCategories : Finset (Nat × CategoryId)
  jobs : Table Payments.Job
  serviceRequests : Table Payments.ServiceRequest
  trackingCategoryAggregates : Record String TrackingCategoryAggregate

inductive SyncError where
  | database (code : String)
  | error (message : String)
  deriving DecidableEq

abbrev Script (α : Type) : Type :=
  Action CategoryDatabase Unit SyncError α

/-- `category.findUnique({ where: { slug } })`. -/
def CategoryTable.findBySlug? (categories : CategoryTable) (slug : String) :
    Option Category :=
  categories.table.findFirst? fun row => row.slug == slug

/-- A write to the categories is refused when it breaks a unique constraint. -/
def CategoryTable.checked (table : Table Category) : Except SyncError CategoryTable :=
  if names : (table.rows.map Category.name).Nodup then
    if slugs : (table.rows.map Category.slug).Nodup then .ok ⟨table, names, slugs⟩
    else .error (.database "P2002")
  else
    .error (.database "P2002")

def writeCategories (write : Table Category → Table Category) : Script Unit := do
  let categories ← .consult fun database => CategoryTable.checked (write database.categories.table)
  .alter fun database => { database with categories := categories }

/-! ## The official categories -/

/-- The `update` of the upsert. -/
def officialRow (category : OfficialCategory) (now : Time) (row : Category) : Category :=
  { row with
    name := category.name
    description := some category.description
    sortOrder := category.sortOrder
    isActive := true
    updatedAt := now }

/-- The `create` of the upsert. -/
def createdRow (category : OfficialCategory) (now : Time) (id : CategoryId) : Category where
  id := id
  name := category.name
  slug := category.slug
  description := some category.description
  isActive := true
  sortOrder := category.sortOrder
  updatedAt := now

/-- `category.upsert({ where: { slug } })`, before the constraints are checked. -/
def upserted (category : OfficialCategory) (now : Time) (table : Table Category) :
    Table Category :=
  match table.findFirst? fun row => row.slug == category.slug with
  | some row => table.update row.id (officialRow category now)
  | none => table.insert (createdRow category now)

def upsertOfficial (now : Time) : List OfficialCategory → Script Unit
  | [] => pure ()
  | category :: rest => do
      writeCategories (upserted category now)
      upsertOfficial now rest

/-! ## The legacy categories -/

structure CategoriesSyncSummary where
  upsertedOfficialCount : Nat
  mergedLegacyCount : Nat
  reassignedWorkerLinks : Nat
  reassignedJobs : Nat
  mergedTrackingRows : Nat
  deactivatedLegacyCount : Nat
  deriving DecidableEq

/-- What the transaction of one mapping returns. -/
structure MigrationResult where
  deletedLinks : Nat
  movedJobs : Nat
  mergedTracking : Nat
  deactivatedLegacyId : Option CategoryId

def maxDate (a b : Option Time) : Option Time :=
  match a, b with
  | none, _ => b
  | some _, none => a
  | some left, some right => if left > right then a else b

/-- `createMany` with `skipDuplicates`, then `deleteMany`. -/
def movedLinks (legacyId canonicalId : CategoryId) (links : Finset (Nat × CategoryId)) :
    Finset (Nat × CategoryId) :=
  let legacyLinks := links.filter fun link => link.2 = legacyId
  (links ∪ legacyLinks.image fun link => (link.1, canonicalId)).filter
    fun link => link.2 ≠ legacyId

def isOfCategory (categoryId : CategoryId) (job : Payments.Job) : Bool :=
  job.categoryId == categoryId

def movedJob (canonicalId : CategoryId) (job : Payments.Job) : Payments.Job :=
  { job with categoryId := canonicalId }

theorem movedJob_category_key (canonical : Category) (job : Payments.Job) :
    Keyed.key (movedJob canonical.id job) = Keyed.key job :=
  rfl

/-- The counts of the canonical slug, with those of the legacy slug added. -/
def mergedAggregate (canonicalTracking : Option TrackingCategoryAggregate)
    (legacyTracking : TrackingCategoryAggregate) : TrackingCategoryAggregate :=
  match canonicalTracking with
  | some canonicalTracking =>
      { interactions := canonicalTracking.interactions + legacyTracking.interactions
        lastEventAt := maxDate canonicalTracking.lastEventAt legacyTracking.lastEventAt }
  | none => legacyTracking

def mergedAggregates (mapping : LegacyCategoryMapping)
    (aggregates : Record String TrackingCategoryAggregate) :
    Record String TrackingCategoryAggregate :=
  match aggregates.get? mapping.fromSlug with
  | none => aggregates
  | some legacyTracking =>
      (aggregates.modify legacyTracking mapping.toSlug fun _ =>
        mergedAggregate (aggregates.get? mapping.toSlug) legacyTracking).erase mapping.fromSlug

def deactivatedRow (canonical : Category) (now : Time) (row : Category) : Category :=
  { row with
    isActive := false
    sortOrder := 9999
    description := some
      ("Categoria legada consolidada em \"" ++ canonical.name ++ "\" (" ++ canonical.slug ++ ").")
    updatedAt := now }

theorem deactivatedRow_key (canonical : Category) (now : Time) (row : Category) :
    Keyed.key (deactivatedRow canonical now row) = Keyed.key row :=
  rfl

/-- The transaction of one mapping. -/
def migrateLegacy (mapping : LegacyCategoryMapping) (legacy canonical : Category)
    (now : Time) : Script MigrationResult := do
  let legacyLinks ← .inspect fun database =>
    database.workerProfileCategories.filter fun link => link.2 = legacy.id
  let movedJobs ← .inspect fun database => database.jobs.findMany (isOfCategory legacy.id)
  let legacyTracking ← .inspect fun database =>
    database.trackingCategoryAggregates.get? mapping.fromSlug
  .alter fun database =>
    { database with
      workerProfileCategories :=
        movedLinks legacy.id canonical.id database.workerProfileCategories
      jobs := database.jobs.updateMany (isOfCategory legacy.id) (movedJob canonical.id)
      trackingCategoryAggregates := mergedAggregates mapping database.trackingCategoryAggregates }
  if legacy.isActive then
    writeCategories fun table => table.update legacy.id (deactivatedRow canonical now)
  else
    pure ()
  pure
    { deletedLinks := legacyLinks.card
      movedJobs := movedJobs.length
      mergedTracking := if legacyTracking.isSome then 1 else 0
      deactivatedLegacyId := if legacy.isActive then some legacy.id else none }

def CategoriesSyncSummary.record (summary : CategoriesSyncSummary) (result : MigrationResult) :
    CategoriesSyncSummary :=
  { summary with
    mergedLegacyCount := summary.mergedLegacyCount +
      if 0 < result.deletedLinks ∨ 0 < result.movedJobs ∨ 0 < result.mergedTracking ∨
        result.deactivatedLegacyId.isSome then 1 else 0
    reassignedWorkerLinks := summary.reassignedWorkerLinks + result.deletedLinks
    reassignedJobs := summary.reassignedJobs + result.movedJobs
    mergedTrackingRows := summary.mergedTrackingRows + result.mergedTracking
    deactivatedLegacyCount := summary.deactivatedLegacyCount +
      if result.deactivatedLegacyId.isSome then 1 else 0 }

/-- One round of the loop over the mappings. -/
def mergeLegacy (now : Time) (mapping : LegacyCategoryMapping)
    (summary : CategoriesSyncSummary) : Script CategoriesSyncSummary := do
  let found ← .inspect fun database => database.categories.findBySlug? mapping.fromSlug
  match found with
  | none => pure summary
  | some legacy =>
      let canonical ← .consult fun database =>
        match database.categories.findBySlug? mapping.toSlug with
        | some canonical => .ok canonical
        | none => .error (.error ("Canonical category missing for mapping " ++
            mapping.fromSlug ++ " -> " ++ mapping.toSlug))
      if legacy.id = canonical.id then
        pure summary
      else
        let result ← .transaction (migrateLegacy mapping legacy canonical now)
        pure (summary.record result)

def mergeAll (now : Time) : List LegacyCategoryMapping → CategoriesSyncSummary →
    Script CategoriesSyncSummary
  | [], summary => pure summary
  | mapping :: rest, summary => do
      let summary ← mergeLegacy now mapping summary
      mergeAll now rest summary

def syncCategories (catalog : CategoryCatalog) (now : Time) : Script CategoriesSyncSummary := do
  upsertOfficial now catalog.official
  mergeAll now catalog.mappings
    { upsertedOfficialCount := catalog.official.length
      mergedLegacyCount := 0
      reassignedWorkerLinks := 0
      reassignedJobs := 0
      mergedTrackingRows := 0
      deactivatedLegacyCount := 0 }

def syncOfficialCategories (now : Time) : Script CategoriesSyncSummary :=
  syncCategories officialCatalog now

end Tchuno.Catalog
