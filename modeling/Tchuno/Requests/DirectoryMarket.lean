import Tchuno.Catalog.Directory
import Tchuno.Library.Projections
import Tchuno.Requests.Market

/-!
# The directory in the market

The market knows whose a profile is and whether the worker is available, and whether a
category is active.  What the services of the directory do, it sees as a run of its own
operations.  A synchronisation of the categories moves jobs as well, and is not among them.
-/

namespace Tchuno.Requests

open Tchuno.Library Tchuno.Payments
open Tchuno.Catalog (Directory DirectoryCall)

/-! ## What the market sees -/

def seenProfile (profile : Catalog.WorkerProfile) : WorkerProfile :=
  ⟨profile.id, profile.userId, profile.isAvailable⟩

theorem key_seenProfile (profile : Catalog.WorkerProfile) :
    Keyed.key (seenProfile profile) = Keyed.key profile :=
  rfl

def seenCategory (category : Catalog.Category) : Category :=
  ⟨category.id, category.isActive⟩

theorem key_seenCategory (category : Catalog.Category) :
    Keyed.key (seenCategory category) = Keyed.key category :=
  rfl

/-- The categories of the directory as the market sees them. -/
def seenCategories (directory : Directory) : Table Category :=
  directory.database.categories.table.project seenCategory key_seenCategory

/-- The store with the directory in its market. -/
def shownIn (store : Store) (directory : Directory) : Store :=
  { store with
    market :=
      { store.market with
        workerProfiles := directory.profiles.project seenProfile key_seenProfile
        categories := seenCategories directory } }

/-- A category is created, or deactivated. -/
inductive CategoryWrite (before : Table Category) : Table Category → Prop where
  | create : CategoryWrite before (before.insert (fun id => ⟨id, true⟩) fun _ => rfl)
  | remove (id : Nat) :
      CategoryWrite before
        (before.update id (fun category => { category with isActive := false }) fun _ => rfl)

/-- The operations which stand for the services of the directory: they write one profile or
one category. -/
def OfDirectory (store : Store) : MarketOperation → Prop
  | .upsertMe _ _ => True
  | .others users categories =>
      users = store.market.users ∧ CategoryWrite store.market.categories categories
  | _ => False

/-- The market answers the step with operations of its own. -/
def Answers (store : Store) (before after : Directory) : Prop :=
  ∃ operations : List MarketOperation,
    marketplace.Along OfDirectory (shownIn store before) operations ∧
      marketplace.run (shownIn store before) operations = shownIn store after

section Steps

variable {store : Store} {before after : Directory}

/-- A change which is not seen asks for no operation. -/
theorem answers_of_same (profiles : after.profiles = before.profiles)
    (categories : seenCategories after = seenCategories before) : Answers store before after := by
  refine ⟨[], trivial, ?_⟩
  rw [Machine.run_nil]
  unfold shownIn
  rw [profiles, categories]

theorem Answers.trans {last : Directory} (first : Answers store before after)
    (second : Answers store after last) : Answers store before last := by
  obtain ⟨early, earlyOwn, reached⟩ := first
  obtain ⟨late, lateOwn, ended⟩ := second
  refine ⟨early ++ late, (Machine.along_append _ _ _ _ _).mpr ⟨earlyOwn, ?_⟩, ?_⟩
  · rw [reached]
    exact lateOwn
  · rw [Machine.run_append, reached, ended]

/-- A write to one category. -/
theorem answers_of_write (profiles : after.profiles = before.profiles)
    (write : CategoryWrite (seenCategories before) (seenCategories after)) :
    Answers store before after := by
  refine ⟨[.others store.market.users (seenCategories after)], ⟨⟨rfl, write⟩, trivial⟩, ?_⟩
  rw [Machine.run_cons, Machine.run_nil]
  unfold shownIn
  rw [profiles]
  rfl

/-- What the market does when it is told of a profile. -/
theorem answers_of_upsert {userId : UserId} {isAvailable : Bool}
    (categories : after.database.categories = before.database.categories)
    (told : (upsertMe userId isAvailable (shownIn store before).market).workerProfiles =
      after.profiles.project seenProfile key_seenProfile) : Answers store before after := by
  refine ⟨[.upsertMe userId isAvailable], ⟨trivial, trivial⟩, ?_⟩
  rw [Machine.run_cons, Machine.run_nil]
  have framed : upsertMe userId isAvailable (shownIn store before).market =
      { (shownIn store before).market with
        workerProfiles :=
          (upsertMe userId isAvailable (shownIn store before).market).workerProfiles } := rfl
  change ({ shownIn store before with
    market := upsertMe userId isAvailable (shownIn store before).market } : Store) = _
  rw [framed, told]
  unfold shownIn seenCategories
  rw [categories]

theorem profileOf?_shownIn (userId : UserId) :
    profileOf? userId (shownIn store before).market = (before.profileOf? userId).map seenProfile :=
  Table.findFirst?_project key_seenProfile fun _ => rfl

/-- A rewrite of the worker's own profile is the upsert of its availability. -/
theorem answers_of_rewrite {userId : UserId} {existing : Catalog.WorkerProfile}
    (found : before.profileOf? userId = some existing)
    {change : Catalog.WorkerProfile → Catalog.WorkerProfile}
    (keeps : ∀ row, Keyed.key (change row) = Keyed.key row)
    (sameOwner : (change existing).userId = existing.userId)
    (categories : after.database.categories = before.database.categories)
    (profiles : after.profiles = before.profiles.update existing.id change keeps) :
    Answers store before after := by
  refine @answers_of_upsert _ _ _ userId (change existing).isAvailable categories ?_
  have sameId : (change existing).id = existing.id := keeps existing
  unfold upsertMe
  rw [profileOf?_shownIn, found, profiles]
  refine (Table.project_update key_seenProfile (Catalog.Directory.profileOf?_eq_some found).1
    keeps ?_ ?_).symm
  · exact fun row => rfl
  · rw [seenProfile, sameId, sameOwner]
    rfl

/-- A new profile is the upsert of a user who had none. -/
theorem answers_of_insert {userId : UserId} {make : Nat → Catalog.WorkerProfile}
    (isAvailable : Bool) (found : before.profileOf? userId = none)
    (keyed : ∀ id, Keyed.key (make id) = id)
    (made : ∀ id, seenProfile (make id) = ⟨id, userId, isAvailable⟩)
    (categories : after.database.categories = before.database.categories)
    (profiles : after.profiles = before.profiles.insert make keyed) :
    Answers store before after := by
  refine @answers_of_upsert _ _ _ userId isAvailable categories ?_
  unfold upsertMe
  rw [profileOf?_shownIn, found, profiles]
  exact (Table.project_insert key_seenProfile keyed (fun id => rfl) made).symm

theorem answers_serve {call : DirectoryCall} (served : call.serve before = .ok after) :
    Answers store before after := by
  cases call with
  | upsertMe userId dto =>
      obtain ⟨-, ⟨profile, found, written⟩ | ⟨found, written⟩⟩ :=
        Catalog.Directory.exists_of_upsertMe served
      · obtain ⟨links, rfl, -⟩ := Catalog.Directory.exists_of_writeProfile written
        refine answers_of_rewrite found ?_ ?_ rfl rfl
        · exact fun row => rfl
        · rfl
      · obtain ⟨links, rfl, -⟩ := Catalog.Directory.exists_of_writeProfile written
        refine answers_of_insert (Catalog.resolveIsAvailable dto) found ?_ ?_ rfl rfl
        · exact fun id => rfl
        · exact fun id => rfl
  | updateMe userId dto =>
      obtain ⟨existing, passed, found, -, written⟩ := Catalog.Directory.exists_of_updateMe served
      obtain ⟨links, rfl, -⟩ := Catalog.Directory.exists_of_writeProfile written
      refine answers_of_rewrite found ?_ ?_ rfl rfl
      · exact fun row => rfl
      · rfl
  | createCategory dto now =>
      obtain ⟨categories, created, rfl⟩ := Catalog.Directory.exists_of_onCategories served
      obtain ⟨slug, -, written⟩ := Catalog.exists_of_createCategory created
      refine answers_of_write rfl ?_
      have inserted := @Table.project_insert _ _ _ _ before.database.categories.table _
        key_seenCategory (dto.row slug now) (fun _ => rfl) (fun id => ⟨id, true⟩) (fun _ => rfl)
        fun _ => rfl
      rw [← written] at inserted
      unfold seenCategories
      rw [inserted]
      exact .create
  | updateCategory id dto now =>
      obtain ⟨categories, updated, rfl⟩ := Catalog.Directory.exists_of_onCategories served
      obtain ⟨slug, -, written⟩ := Catalog.exists_of_updateCategory updated
      refine answers_of_same rfl ?_
      have unseen := @Table.project_update_of_same _ _ _ _ before.database.categories.table _
        key_seenCategory id (dto.rewrite slug now) (fun _ => rfl) fun _ => rfl
      rw [← written] at unseen
      exact unseen
  | removeCategory id now =>
      obtain ⟨categories, removed, rfl⟩ := Catalog.Directory.exists_of_onCategories served
      obtain ⟨row, found, written⟩ := Catalog.exists_of_removeCategory removed
      refine answers_of_write rfl ?_
      obtain rfl : Keyed.key row = id := Table.key_of_find? _ found
      have updated := @Table.project_update _ _ _ _ before.database.categories.table _
        key_seenCategory row (Table.mem_of_find? _ found) (Catalog.deactivated now)
        (fun _ => rfl) (fun category => { category with isActive := false }) (fun _ => rfl) rfl
      rw [← written] at updated
      unfold seenCategories
      rw [updated]
      exact .remove _

/-- A call that fails leaves no trace. -/
theorem answers_apply (store : Store) (directory : Directory) (call : DirectoryCall) :
    Answers store directory ((Catalog.DirectoryEvent.call call).apply directory) := by
  rw [Catalog.DirectoryEvent.apply]
  cases served : call.serve directory with
  | error error => exact answers_of_same rfl rfl
  | ok after => exact answers_serve served

end Steps

/-- Whatever calls of its services the directory answers, the market reaches what it sees of
it by operations of its own, each of which writes one profile or one category. -/
theorem marketplace_follows_directory (store : Store) (directory : Directory)
    (calls : List DirectoryCall) :
    ∃ operations : List MarketOperation,
      marketplace.Along OfDirectory (shownIn store directory) operations ∧
        marketplace.run (shownIn store directory) operations =
          shownIn store (Catalog.directoryMachine.run directory (calls.map .call)) := by
  change Answers store directory (Catalog.directoryMachine.run directory (calls.map .call))
  induction calls generalizing directory with
  | nil => exact answers_of_same rfl rfl
  | cons call rest inductionHypothesis =>
      exact (answers_apply store directory call).trans (inductionHypothesis _)

/-- A worker who chooses a category which is removed. -/
def sampleDirectoryCalls : List DirectoryCall :=
  [.createCategory ⟨" Eletricidade ", none, none, none⟩ 10,
    .upsertMe 7 ⟨some " Ana ", none, none, none, none, some true, none, none, some [0]⟩,
    .removeCategory 0 20]

theorem sampleDirectoryCalls_followed :
    ∃ operations : List MarketOperation,
      marketplace.Along OfDirectory (shownIn emptyStore Catalog.emptyDirectory) operations ∧
        marketplace.run (shownIn emptyStore Catalog.emptyDirectory) operations =
          shownIn emptyStore (Catalog.directoryMachine.run Catalog.emptyDirectory
            (sampleDirectoryCalls.map .call)) :=
  marketplace_follows_directory emptyStore Catalog.emptyDirectory sampleDirectoryCalls

end Tchuno.Requests
