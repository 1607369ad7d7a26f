import ArchiDeal.Catalogue.Principals
import ArchiDeal.Hosting.Serializers

/-!
# Applications and datasets

`HostedApplicationViewSet` and `DatasetViewSet` of `apps/hosting/views.py` and
`publish_immutable_version` of `apps/hosting/versioning.py`. A body is given by the values of its
fields after the conversions of the framework; what a serializer still decides (required fields,
lengths, uniqueness, existing keys) is here. The texts of the database and of the search filter are
compared as `Locale` says.
-/

namespace ArchiDeal.Catalogue

open Text Hosting Fields

/-! ### Bodies -/

/-- The fields that `HostedApplicationSerializer` and `DatasetSerializer` have in common. -/
structure EntryBody where
  name : Option String := none
  slug : Option String := none
  description : Option String := none
  enabled : Option Bool := none
  moduleIds : Option (List ℕ) := none

structure DatasetBody extends EntryBody where
  userIds : Option (List ℕ) := none
  groupIds : Option (List ℕ) := none

/-- `PrimaryKeyRelatedField(many=True)`: every key has a row. -/
def keysExist {α : Type} (t : Table ℕ α) (ids : Option (List ℕ)) : Bool :=
  ids.all fun ids => ids.all fun i => (t.lookup i).isSome

/-- A text of at most `maxLength` characters that is not blank. -/
def isText (maxLength : ℕ) (s : String) : Bool :=
  let value := (strip s).toList
  !value.isEmpty && value.length ≤ maxLength && !value.contains '\x00'

/-- `is_valid` for the common fields; `others` are the entries with another key. -/
def EntryBody.isValid (b : EntryBody) (maxLength : ℕ) (patch : Bool) (others : List Entry)
    (modules : Table ℕ Module) : Bool :=
  (patch || (b.name.isSome && b.slug.isSome)) &&
    b.name.all (fun s => isText maxLength s && !others.any (·.name == strip s)) &&
    b.slug.all (fun s => isText maxLength s && isSlug (strip s) &&
      !others.any (·.slug == strip s)) &&
    b.description.all (fun s => !s.toList.contains '\x00') && keysExist modules b.moduleIds

/-- `setattr` for the validated fields, `modules.set`, and the next revision. -/
def Entry.assign (e : Entry) (b : EntryBody) (now : Time) : Entry where
  name := (b.name.map strip).getD e.name
  slug := (b.slug.map strip).getD e.slug
  description := (b.description.map strip).getD e.description
  enabled := b.enabled.getD e.enabled
  revision := e.revision + 1
  createdAt := e.createdAt
  updatedAt := now
  modules := (b.moduleIds.map List.toFinset).getD e.modules
  revision_pos := e.revision.succ_pos

/-- The row that `create` inserts, before its relations are set. -/
def Entry.create (b : EntryBody) (now : Time) : Entry where
  name := (b.name.map strip).getD ""
  slug := (b.slug.map strip).getD ""
  description := (b.description.map strip).getD ""
  enabled := b.enabled.getD true
  revision := 1
  createdAt := now
  updatedAt := now
  modules := ∅
  revision_pos := Nat.one_pos

/-- The entries of a table with another key. -/
def othersIn {α : Type} (t : Table ℕ α) (entry : α → Entry) (id : ℕ) : List Entry :=
  ((rowsOf t).filter fun row => row.1 != id).map fun row => entry row.2

def invalidBody : Stop := .response (answer 400 .invalid)

/-! ### Applications -/

/-- The query parameters of `HostedApplicationViewSet`. -/
structure ApplicationParams where
  enabled : Option Bool := none
  moduleSlug : Option String := none
  currentVersion : Option String := none

/-- The joined modules of a set that have the slug. -/
def withSlug (modules : Table ℕ Module) (slug : String) (ids : Finset ℕ) : ℕ :=
  (ids.filter fun i => (modules.lookup i).any fun m => m.slug == slug).card

/-- `get_queryset` of the view sets of applications and tools, for the columns of a row. -/
def releaseQuery {α : Type} (modules : Table ℕ Module) (params : ApplicationParams)
    (enabled : α → Bool) (moduleKeys : α → Finset ℕ) (currentVersion : α → String) :
      Query (ℕ × α) :=
  let q : Query (ℕ × α) := Query.all
  let q := match params.enabled with
    | some value => q.filter fun row => enabled row.2 == value
    | none => q
  let q := match params.moduleSlug with
    | some slug => if slug.toList.isEmpty then q
      else q.filterJoin fun row => withSlug modules slug (moduleKeys row.2)
    | none => q
  let q := match params.currentVersion with
    | some version => if version.toList.isEmpty then q
      else q.filter fun row => currentVersion row.2 == version
    | none => q
  q.dedup

/-- `HostedApplicationViewSet.get_queryset`. -/
def applicationQuery (db : Database) (params : ApplicationParams) : Query (ℕ × Application) :=
  releaseQuery db.modules params (·.enabled) (·.modules) (·.currentVersion)

/-- The application of a write, locked, if it still has the expected revision. -/
def lockApplication (engine : Engine) (db : Database) (params : ApplicationParams)
    (id expected : ℕ) : Handler Application := do
  let a ← getOr404 engine (applicationQuery db params).selectForUpdate db.applications id
  ensure (a.revision == expected) (staleRevision "application" a.revision)
  return a

def Database.saveApplication (db : Database) (id : ℕ) (a : Application) : Database :=
  { db with applications := db.applications.insert id a }

def applicationResponse (id : ℕ) (a : Application) : Response :=
  ⟨200, .application id a, some (revisionEtag a.revision)⟩

/-- `HostedApplicationViewSet.update`. -/
def updateApplication (engine : Engine) (db : Database) (now : Time) (params : ApplicationParams)
    (id : ℕ) (ifMatch : Option String) (patch : Bool) (body : EntryBody) :
    Handler (Response × Database) := do
  let expected ← expectedRevision ifMatch "application updates"
  let a ← lockApplication engine db params id expected
  ensure (body.isValid 80 patch (othersIn db.applications Application.toEntry id) db.modules)
    invalidBody
  bigint (a.revision + 1)
  let saved := { a with toEntry := a.toEntry.assign body now }
  return (applicationResponse id saved, db.saveApplication id saved)

/-- `HostedApplicationViewSet.destroy`. -/
def destroyApplication (engine : Engine) (db : Database) (params : ApplicationParams) (id : ℕ)
    (ifMatch : Option String) : Handler (Response × Database) := do
  let expected ← expectedRevision ifMatch "application deletion"
  let _ ← lockApplication engine db params id expected
  ensure (!(id ∈ db.deployed)) (.database .isProtected)
  return (answer 204 .empty, { db with applications := db.applications.erase id })

/-- The application after `modules.add` or `modules.remove`. -/
def Application.setMember (a : Application) (moduleId : ℕ) (attach : Bool) (now : Time) :
    Application :=
  { a with
    modules := if attach then insert moduleId a.modules else a.modules.erase moduleId
    revision := a.revision + 1
    updatedAt := now
    revision_pos := a.revision.succ_pos }

def updateModuleMembership (engine : Engine) (db : Database) (now : Time)
    (params : ApplicationParams) (id : ℕ) (ifMatch : Option String) (attach : Bool)
    (moduleId : ℕ) : Handler (Response × Database) := do
  ensure (db.modules.lookup moduleId).isSome invalidBody
  let expected ← expectedRevision ifMatch "application module changes"
  let a ← lockApplication engine db params id expected
  if attach = decide (moduleId ∈ a.modules) then
    return (applicationResponse id a, db)
  else
    bigint (a.revision + 1)
    let saved := a.setMember moduleId attach now
    return (applicationResponse id saved, db.saveApplication id saved)

/-! ### Versions -/

structure VersionBody where
  version : String
  notes : Option String := none
  source : Option String := none

/-- `validate_version`: the version without its leading `v`s. -/
def VersionBody.normalized (b : VersionBody) : String :=
  String.ofList ((strip b.version).toList.dropWhile (· == 'v'))

def VersionBody.isValid (b : VersionBody) : Bool :=
  isText 32 b.version && isSemver (strip b.version) &&
    b.notes.all (fun s => !s.toList.contains '\x00') && b.source.all (isText 32)

/-- The validated notes and source. -/
def VersionBody.metadata (b : VersionBody) : String × String :=
  ((b.notes.map strip).getD "", (b.source.map strip).getD "manual")

def moduleSnapshot (profiles : Table ℕ ModuleRuntimeProfile) (id : ℕ) (m : Module) : Json :=
  .obj [("module_id", .int id), ("slug", .str m.slug), ("image", .str m.image),
    ("enabled", .bool m.enabled), ("deployment_target", .str m.deploymentTarget),
    ("profile", match profiles.lookup id with
      | some p => profileSnapshot p
      | none => .null)]

/-- The query of `snapshot_application_runtime`: its rows are locked, with the profiles that may be
missing. -/
def snapshotQuery (a : Application) : Query (ℕ × Module) :=
  ((Query.all.filter fun row => decide (row.1 ∈ a.modules)).selectForUpdate).selectRelated

/-- The snapshot of an application with these modules. -/
def snapshotOf (db : Database) (id : ℕ) (a : Application) (rows : List (ℕ × Module)) : Json :=
  let modules := rows.insertionSort fun r s => r.2.slug ≤ s.2.slug
  .obj [("schema_version", .int 1),
    ("application", .obj [("id", .int id), ("slug", .str a.slug)]),
    ("modules", .arr (modules.map fun row => moduleSnapshot db.profiles row.1 row.2))]

def snapshotApplication (engine : Engine) (db : Database) (id : ℕ) (a : Application) :
    Handler Json := do
  let rows ← select engine (snapshotQuery a) (rowsOf db.modules)
  return snapshotOf db id a rows

def newVersion (version : String) (metadata : String × String) (snapshot : Json) (now : Time) :
    ApplicationVersion :=
  ⟨version, metadata.1, metadata.2, snapshot, sha256Json snapshot, now⟩

/-- The application after the publication of a version. -/
def Application.publish (a : Application) (v : ApplicationVersion) (now : Time) : Application :=
  { a with
    currentVersion := v.version
    releasedAt := some now
    versions := a.versions ++ [v]
    revision := a.revision + 1
    updatedAt := now
    revision_pos := a.revision.succ_pos }

/-- What `publish_immutable_version` does: the row, the version, and whether it is new. -/
structure Publication where
  application : Application
  version : ApplicationVersion
  created : Bool

/-- The answer to a version number that is used with other metadata. -/
def versionConflict (version : String) : Stop :=
  .response (answer 409 (.problem "version_conflict"
    s!"Version {version} already exists with different immutable release metadata."))

/-- `publish_immutable_version` for an application; autodiscovery expects no revision. -/
def publishImmutableVersion (engine : Engine) (db : Database) (now : Time) (id : ℕ)
    (version : String) (metadata : String × String) (expected : Option ℕ) :
    Handler (Publication × Database) := do
  let a ← getOr404 engine Query.all.selectForUpdate db.applications id
  ensure (expected.all (· == a.revision)) (staleRevision "application" a.revision)
  let snapshot ← snapshotApplication engine db id a
  match a.versions.find? (·.version == version) with
  | some v =>
    ensure (v.notes == metadata.1 && v.source == metadata.2) (versionConflict version)
    return (⟨a, v, false⟩, db)
  | none =>
    bigint (a.revision + 1)
    let v := newVersion version metadata snapshot now
    let saved := a.publish v now
    return (⟨saved, v, true⟩, db.saveApplication id saved)

/-- `HostedApplicationViewSet.versions` with `POST`. -/
def publishVersion (engine : Engine) (db : Database) (now : Time) (params : ApplicationParams)
    (id : ℕ) (ifMatch : Option String) (body : VersionBody) : Handler (Response × Database) := do
  let _ ← getOr404 engine (applicationQuery db params) db.applications id
  let expected ← expectedRevision ifMatch "application version publication"
  ensure body.isValid invalidBody
  let (publication, db) ←
    publishImmutableVersion engine db now id body.normalized body.metadata (some expected)
  return (⟨if publication.created then 201 else 200, .version publication.version,
    some (revisionEtag publication.application.revision)⟩, db)

/-! ### The query of the datasets -/

/-- How texts are compared. -/
structure Locale where
  casefold : String → String
  /-- The terms of a search; `none` for a text that the filter refuses. -/
  terms : String → Option (List String)
  /-- `text ILIKE '%term%'`. -/
  icontains : String → String → Bool
  /-- The order of texts in the database. -/
  collate : String → String → Bool

/-- The query parameters of `DatasetViewSet`. -/
structure DatasetParams where
  enabled : Option String := none
  moduleSlug : Option String := none
  userId : Option String := none
  groupId : Option String := none
  search : Option String := none
  ordering : Option String := none

/-- The rows that an outer join with a relation yields. -/
def joined (ids : Finset ℕ) : Finset (Option ℕ) := if ids = ∅ then {none} else ids.image some

/-- `access_scope`: the joined users and groups that give access to the dataset. -/
def accessScope (db : Database) (user : Principal) (d : Dataset) : ℕ :=
  ((joined d.users ×ˢ joined d.groups).filter fun row =>
    (∃ account, aclUser db user = some account ∧
      (row.1 = some account ∨ ∃ g ∈ groupsOf db account, row.2 = some g)) ∨
    ∃ g, row.2 = some g ∧ ∃ group, db.groups.lookup g = some group ∧
      group.name ∈ externalGroups user).card

def queryBool (locale : Locale) (value : String) : Bool :=
  locale.casefold (strip value) ∈ ["1", "true", "yes", "on"]

/-- The part of `get_queryset` that depends on the reader. -/
def scopeQuery (db : Database) (user : Principal) : Query (ℕ × Dataset) :=
  if user.isStaff then Query.all
  else if (aclUser db user).isNone && (externalGroups user).isEmpty then Query.all.filter
    fun _ => false
  else (Query.all.filter fun row => row.2.enabled).filterJoin fun row => accessScope db user row.2

/-- A filter with the key of a related row; a text that is no number is a `ValueError`. -/
def keyFilter (q : Query (ℕ × Dataset)) (key : Option String) (ids : Dataset → Finset ℕ) :
    Handler (Query (ℕ × Dataset)) :=
  match given key with
  | none => .ok q
  | some text =>
    match pyInt text with
    | some n => .ok (q.filter fun row => decide (n.toNat ∈ ids row.2) && decide (0 ≤ n))
    | none => .error (.database .outOfRange)

/-- `DatasetViewSet.get_queryset`. -/
def datasetQuery (locale : Locale) (db : Database) (user : Principal) (params : DatasetParams) :
    Handler (Query (ℕ × Dataset)) := do
  let q := scopeQuery db user
  let q := match params.enabled with
    | some value => q.filter fun row => row.2.enabled == queryBool locale value
    | none => q
  let q := match given params.moduleSlug with
    | some slug => q.filterJoin fun row => withSlug db.modules slug row.2.modules
    | none => q
  if user.isStaff then
    let q ← keyFilter q params.userId Dataset.users
    let q ← keyFilter q params.groupId Dataset.groups
    return q.dedup
  else return q.dedup

/-- The search fields of a dataset contain the term. -/
def matchesTerm (locale : Locale) (db : Database) (e : Entry) (term : String) : Bool :=
  locale.icontains e.name term || locale.icontains e.slug term ||
    locale.icontains e.description term ||
    decide (∃ i ∈ e.modules, ((db.modules.lookup i).any fun m =>
      locale.icontains m.slug term) = true)

/-- `SearchFilter`: every term is in one of the search fields. -/
def searchQuery (locale : Locale) (db : Database) (params : DatasetParams)
    (q : Query (ℕ × Dataset)) : Handler (Query (ℕ × Dataset)) :=
  match params.search with
  | none => .ok q
  | some text =>
    match locale.terms text with
    | none => .error (.response (answer 400 .invalid))
    | some [] => .ok q
    | some terms => .ok (q.filter fun row => terms.all (matchesTerm locale db row.2.toEntry))

/-- `filter_queryset(get_queryset())`. -/
def filteredDatasets (locale : Locale) (db : Database) (user : Principal) (params : DatasetParams) :
    Handler (Query (ℕ × Dataset)) := do
  let q ← datasetQuery locale db user params
  searchQuery locale db params q

/-! ### The order of the datasets -/

inductive OrderField where
  | name
  | slug
  | enabled
  | createdAt
  deriving DecidableEq

def orderTerm (term : String) : Option (OrderField × Bool) :=
  let (name, descending) := match term.toList with
    | '-' :: cs => (String.ofList cs, true)
    | _ => (term, false)
  if name = "name" then some (.name, descending)
  else if name = "slug" then some (.slug, descending)
  else if name = "enabled" then some (.enabled, descending)
  else if name = "created_at" then some (.createdAt, descending)
  else none

def orderTerms (ordering : Option String) : List (OrderField × Bool) :=
  match given ordering with
  | none => [(.name, false)]
  | some text =>
    match ((text.splitOn ",").map strip).filterMap orderTerm with
    | [] => [(.name, false)]
    | terms => terms

/-- The order of a column. -/
def fieldLe (locale : Locale) (d e : Entry) : OrderField → Bool
  | .name => locale.collate d.name e.name
  | .slug => locale.collate d.slug e.slug
  | .enabled => !d.enabled || e.enabled
  | .createdAt => d.createdAt ≤ e.createdAt

/-- `ORDER BY`; rows that the terms do not distinguish come in the order of their keys. -/
def rowLe (locale : Locale) : List (OrderField × Bool) → ℕ × Entry → ℕ × Entry → Bool
  | [], r, s => r.1 ≤ s.1
  | (field, descending) :: terms, r, s =>
    let below := fieldLe locale r.2 s.2 field
    let above := fieldLe locale s.2 r.2 field
    if below && above then rowLe locale terms r s else if descending then above else below

/-- The rows with their keys in order. -/
def sortedRows {α : Type} (rows : List (ℕ × α)) : List (ℕ × α) :=
  rows.mergeSort fun r s => r.1 ≤ s.1

/-! ### Reading datasets -/

/-- The representation of one dataset: `get_serializer_class`. -/
def datasetContent (user : Principal) (id : ℕ) (d : Dataset) : Content :=
  if user.isStaff then .datasetAdmin id d else .dataset id d.toEntry

def listDatasets (engine : Engine) (locale : Locale) (db : Database) (user : Principal)
    (params : DatasetParams) : Handler Response := do
  let q ← filteredDatasets locale db user params
  let rows ← select engine q (rowsOf db.datasets)
  let ordered := (sortedRows rows).mergeSort fun r s =>
    rowLe locale (orderTerms params.ordering) (r.1, r.2.toEntry) (s.1, s.2.toEntry)
  return answer 200 (if user.isStaff then .datasetsAdmin ordered
    else .datasets (ordered.map fun row => (row.1, row.2.toEntry)))

def retrieveDataset (engine : Engine) (locale : Locale) (db : Database) (user : Principal)
    (params : DatasetParams) (id : ℕ) : Handler Response := do
  let q ← filteredDatasets locale db user params
  let d ← getOr404 engine q db.datasets id
  return ⟨200, datasetContent user id d, some (revisionEtag d.revision)⟩

/-! ### Writing datasets -/

/-- The dataset of a write, locked, if it still has the expected revision. -/
def lockDataset (engine : Engine) (locale : Locale) (db : Database) (user : Principal)
    (params : DatasetParams) (id expected : ℕ) : Handler Dataset := do
  let q ← filteredDatasets locale db user params
  let d ← getOr404 engine q.selectForUpdate db.datasets id
  ensure (d.revision == expected) (staleRevision "dataset" d.revision)
  return d

def Database.saveDataset (db : Database) (id : ℕ) (d : Dataset) : Database :=
  { db with datasets := db.datasets.insert id d }

def DatasetBody.isValid (b : DatasetBody) (db : Database) (patch : Bool) (id : ℕ) : Bool :=
  b.toEntryBody.isValid 120 patch (othersIn db.datasets Dataset.toEntry id) db.modules &&
    keysExist db.users b.userIds && keysExist db.groups b.groupIds

/-- The dataset after an update. -/
def Dataset.assign (d : Dataset) (b : DatasetBody) (now : Time) : Dataset where
  toEntry := d.toEntry.assign b.toEntryBody now
  users := (b.userIds.map List.toFinset).getD d.users
  groups := (b.groupIds.map List.toFinset).getD d.groups

/-- The insertion of `DatasetViewSet.create`: its relations are not set yet. -/
def insertDataset (db : Database) (now : Time) (body : DatasetBody) : Handler (ℕ × Database) := do
  ensure (body.isValid db false 0) invalidBody
  let row : Dataset := ⟨Entry.create body.toEntryBody now, ∅, ∅⟩
  return (db.nextId, { db.saveDataset db.nextId row with nextId := db.nextId + 1 })

/-- `modules.set`, `users.set` and `groups.set` of `ModelSerializer.create`, one after the other. -/
def Dataset.relate (d : Dataset) (body : DatasetBody) : Dataset :=
  { d with
    modules := (body.moduleIds.map List.toFinset).getD d.modules
    users := (body.userIds.map List.toFinset).getD d.users
    groups := (body.groupIds.map List.toFinset).getD d.groups
    revision_pos := d.pos }

/-- `DatasetViewSet.create`, if nothing comes between its transactions. -/
def createDataset (db : Database) (now : Time) (body : DatasetBody) :
    Handler (Response × Database) := do
  let (id, db) ← insertDataset db now body
  let saved := (⟨Entry.create body.toEntryBody now, ∅, ∅⟩ : Dataset).relate body
  return (answer 201 (.datasetAdmin id saved), db.saveDataset id saved)

def updateDataset (engine : Engine) (locale : Locale) (db : Database) (user : Principal)
    (now : Time) (params : DatasetParams) (id : ℕ) (ifMatch : Option String) (patch : Bool)
    (body : DatasetBody) : Handler (Response × Database) := do
  let expected ← expectedRevision ifMatch "dataset updates"
  let d ← lockDataset engine locale db user params id expected
  ensure (body.isValid db patch id) invalidBody
  bigint (d.revision + 1)
  let saved := d.assign body now
  return (⟨200, .datasetAdmin id saved, some (revisionEtag saved.revision)⟩,
    db.saveDataset id saved)

def destroyDataset (engine : Engine) (locale : Locale) (db : Database) (user : Principal)
    (params : DatasetParams) (id : ℕ) (ifMatch : Option String) :
      Handler (Response × Database) := do
  let expected ← expectedRevision ifMatch "dataset deletion"
  let _ ← lockDataset engine locale db user params id expected
  return (answer 204 .empty, { db with datasets := db.datasets.erase id })

end ArchiDeal.Catalogue
