import ArchiDeal.Catalogue.Discovery
import ArchiDeal.Lib.Transition

/-!
# The catalogue as a system

The requests of `apps/hosting/views.py` and `apps/iam/views.py` that write applications, datasets,
modules, users and groups, interleaved. Most handlers are one transaction. The generic `create` of
the framework is not: the row is committed first, and each relation that the body names is set in a
transaction of its own. The handlers of users and groups lock nothing, so that what they read may
have changed when they write.

A request that takes several transactions leaves the rest of them as a thread of the `World`; the
event `resume` runs the next one. OIDC identities are left out: a user who has one cannot be deleted
through the user handlers, and is deprovisioned only if no access list names it.
-/

namespace ArchiDeal.Catalogue

open Text Hosting Fields Transition

/-- What the requests depend on besides the database. -/
structure Environment where
  engine : Engine
  locale : Locale
  py : Conversions
  /-- `UnicodeUsernameValidator`. -/
  validUsername : String → Bool
  normalizeUsername : String → String

/-! ### Users and groups -/

/-- The fields of `UserSerializer` that the row has; the other ones are taken to be valid. -/
structure UserBody where
  username : Option String := none
  isActive : Option Bool := none
  isStaff : Option Bool := none
  isSuperuser : Option Bool := none
  groupIds : Option (List ℕ) := none

/-- `is_valid` of `UserSerializer`; the name of an OIDC user is not validated. -/
def UserBody.isValid (b : UserBody) (env : Environment) (db : Database) (instance? : Option ℕ)
    (patch oidc : Bool) : Bool :=
  (patch || b.username.isSome) &&
    b.username.all (fun s =>
      if oidc then !(strip s).toList.isEmpty
      else isText 150 s && env.validUsername (strip s) &&
        !db.users.any fun i u => some i != instance? && u.username == strip s) &&
    keysExist db.groups b.groupIds

/-- `setattr` for the validated fields. -/
def User.assign (u : User) (b : UserBody) : User :=
  { u with
    username := (b.username.map strip).getD u.username
    isActive := b.isActive.getD u.isActive
    isStaff := b.isStaff.getD u.isStaff
    isSuperuser := b.isSuperuser.getD u.isSuperuser }

def User.create (env : Environment) (b : UserBody) : User where
  username := env.normalizeUsername ((b.username.map strip).getD "")
  isActive := b.isActive.getD true
  isStaff := b.isStaff.getD false
  isSuperuser := b.isSuperuser.getD false
  groups := ∅
  oidcIdentity := false

def User.protectedFields (u : User) (b : UserBody) : List String :=
  (if b.username.any (strip · != u.username) then ["username"] else []) ++
    (if b.isStaff.any (· != u.isStaff) then ["is_staff"] else []) ++
    (if b.isSuperuser.any (· != u.isSuperuser) then ["is_superuser"] else [])

structure GroupBody where
  name : Option String := none

def GroupBody.isValid (b : GroupBody) (db : Database) (instance? : Option ℕ) (patch : Bool) :
    Bool :=
  (patch || b.name.isSome) && b.name.all fun s =>
    isText 150 s && !db.groups.any fun i g => some i != instance? && g.name == strip s

def Principal.isSuperuser : Principal → Bool
  | .account _ u => u.isSuperuser
  | .token u => u.isSuperuser

/-- `IsSuperUser`. -/
def requireSuperuser (user : Principal) : Handler Unit :=
  ensure user.isSuperuser
    (.response (answer 403 (.detail "You do not have permission to perform this action.")))

/-! ### Transactions -/

/-- A transaction that a request has still to run. -/
inductive Task where
  | insertApplication (body : EntryBody)
  | insertDataset (body : DatasetBody)
  | setApplicationModules (id : ℕ) (ids : List ℕ)
  | setDatasetModules (id : ℕ) (ids : List ℕ)
  | setDatasetUsers (id : ℕ) (ids : List ℕ)
  | setDatasetGroups (id : ℕ) (ids : List ℕ)
  | publishVersion (id : ℕ) (version : String) (metadata : String × String) (expected : ℕ)
  | insertUser (row : User) (groupIds : Option (List ℕ))
  /-- `save` writes the row as it was read, and inserts it if it is gone. -/
  | saveUser (id : ℕ) (row : User) (groupIds : Option (List ℕ))
  | setUserGroups (id : ℕ) (ids : List ℕ)
  | deleteUser (id : ℕ)
  | insertGroup (row : Group)
  | saveGroup (id : ℕ) (row : Group)
  | deleteGroup (id : ℕ)

/-- `relation.set`: both ends of every link exist. -/
def linked {α β : Type} (owners : Table ℕ α) (targets : Table ℕ β) (id : ℕ) (ids : List ℕ) :
    Handler α :=
  match owners.lookup id with
  | none => .error (.database .integrity)
  | some row => do
    ensure (ids.all fun i => (targets.lookup i).isSome) (.database .integrity)
    return row

/-- No other row has the unique values. -/
def unique {α : Type} (t : Table ℕ α) (same : ℕ → α → Bool) : Handler Unit :=
  ensure (!t.any same) (.database .integrity)

/-- The entry has the unique name or slug of another one. -/
def Entry.clashes (e other : Entry) : Bool := other.name == e.name || other.slug == e.slug

/-- The row of a new application. -/
def Application.create (body : EntryBody) (now : Time) : Application where
  toEntry := Entry.create body now
  currentVersion := "0.1.0"
  releasedAt := none
  versions := []

/-- The relations of a new dataset, in the order in which the framework sets them. -/
def DatasetBody.relations (b : DatasetBody) (id : ℕ) : List Task :=
  (b.moduleIds.map (Task.setDatasetModules id)).toList ++
    (b.userIds.map (Task.setDatasetUsers id)).toList ++
    (b.groupIds.map (Task.setDatasetGroups id)).toList

/-- One transaction: the committed database, and the transactions that follow it. -/
def Task.run (env : Environment) (db : Database) (now : Time) : Task →
    Handler (Database × List Task)
  | .insertApplication body => do
    let row := Application.create body now
    unique db.applications fun _ a => row.toEntry.clashes a.toEntry
    return ({ db.saveApplication db.nextId row with nextId := db.nextId + 1 },
      (body.moduleIds.map (Task.setApplicationModules db.nextId)).toList)
  | .insertDataset body => do
    let row : Dataset := ⟨Entry.create body.toEntryBody now, ∅, ∅⟩
    unique db.datasets fun _ d => row.toEntry.clashes d.toEntry
    return ({ db.saveDataset db.nextId row with nextId := db.nextId + 1 }, body.relations db.nextId)
  | .setApplicationModules id ids => do
    let a ← linked db.applications db.modules id ids
    return (db.saveApplication id { a with modules := ids.toFinset, revision_pos := a.pos }, [])
  | .setDatasetModules id ids => do
    let d ← linked db.datasets db.modules id ids
    return (db.saveDataset id { d with modules := ids.toFinset, revision_pos := d.pos }, [])
  | .setDatasetUsers id ids => do
    let d ← linked db.datasets db.users id ids
    return (db.saveDataset id { d with users := ids.toFinset, revision_pos := d.pos }, [])
  | .setDatasetGroups id ids => do
    let d ← linked db.datasets db.groups id ids
    return (db.saveDataset id { d with groups := ids.toFinset, revision_pos := d.pos }, [])
  | .publishVersion id version metadata expected => do
    let (_, db) ← publishImmutableVersion env.engine db now id version metadata (some expected)
    return (db, [])
  | .insertUser row groupIds => do
    unique db.users fun _ u => u.username == row.username
    -- an empty list of groups is not set
    return ({ db with users := db.users.insert db.nextId row, nextId := db.nextId + 1 },
      ((groupIds.filter fun ids => !ids.isEmpty).map (Task.setUserGroups db.nextId)).toList)
  | .saveUser id row groupIds => do
    unique db.users fun i u => i != id && u.username == row.username
    let stored := (db.users.lookup id).map fun u => (u.groups, u.oidcIdentity)
    let saved := { row with
      groups := (stored.map (·.1)).getD ∅
      oidcIdentity := (stored.map (·.2)).getD false }
    return ({ db with users := db.users.insert id saved },
      (groupIds.map (Task.setUserGroups id)).toList)
  | .setUserGroups id ids => do
    let u ← linked db.users db.groups id ids
    return ({ db with users := db.users.insert id { u with groups := ids.toFinset } }, [])
  | .deleteUser id => do
    ensure (!(db.users.lookup id).any (·.oidcIdentity)) (.database .isProtected)
    return (db.deleteUser id, [])
  | .insertGroup row => do
    unique db.groups fun _ g => g.name == row.name
    return ({ db with groups := db.groups.insert db.nextId row, nextId := db.nextId + 1 }, [])
  | .saveGroup id row => do
    unique db.groups fun i g => i != id && g.name == row.name
    return ({ db with groups := db.groups.insert id row }, [])
  | .deleteGroup id => .ok (db.deleteGroup id, [])

/-! ### Requests -/

/-- A request that writes. The conditions are those of the query parameters, on
columns of the row. -/
inductive Request where
  | createApplication (body : EntryBody)
  | updateApplication (params : ApplicationParams) (id : ℕ) (ifMatch : Option String) (patch : Bool)
      (body : EntryBody)
  | destroyApplication (params : ApplicationParams) (id : ℕ) (ifMatch : Option String)
  | setMembership (params : ApplicationParams) (id : ℕ) (ifMatch : Option String) (attach : Bool)
      (moduleId : ℕ)
  | publishVersion (params : ApplicationParams) (id : ℕ) (ifMatch : Option String)
      (body : VersionBody)
  | createDataset (body : DatasetBody)
  | updateDataset (params : DatasetParams) (id : ℕ) (ifMatch : Option String) (patch : Bool)
      (body : DatasetBody)
  | destroyDataset (params : DatasetParams) (id : ℕ) (ifMatch : Option String)
  | createModule (body : Json)
  | updateModule (conditions : Module → Bool) (id : ℕ) (patch : Bool) (body : Json)
  | destroyModule (conditions : Module → Bool) (id : ℕ)
  | createUser (body : UserBody) (validPassword : Bool)
  | updateUser (conditions : User → Bool) (id : ℕ) (patch : Bool) (body : UserBody)
  | destroyUser (conditions : User → Bool) (id : ℕ)
  | createGroup (body : GroupBody)
  | updateGroup (conditions : Group → Bool) (id : ℕ) (patch : Bool) (body : GroupBody)
  | destroyGroup (conditions : Group → Bool) (id : ℕ)
  | autoDiscover (files : Manifests)

/-- A handler of one transaction. -/
def single (h : Handler (Response × Database)) : Handler (Database × List Task) :=
  h.map fun r => (r.2, [])

/-- `get_object` of a view set whose conditions are on columns. -/
def getObject {α : Type} [DecidableEq α] (env : Environment) (conditions : α → Bool) (t : Table ℕ α)
    (id : ℕ) : Handler α :=
  getOr404 env.engine (Query.all.filter fun row => conditions row.2) t id

/-- The first transaction of a request, or what it reads before its first transaction. -/
def Request.handle (env : Environment) (user : Principal) (db : Database) (now : Time) :
    Request → Handler (Database × List Task)
  | .createApplication body => do
    requireStaff user
    ensure (body.isValid 80 false (othersIn db.applications Application.toEntry 0) db.modules)
      invalidBody
    return (db, [.insertApplication body])
  | .updateApplication params id ifMatch patch body => do
    requireStaff user
    single (Catalogue.updateApplication env.engine db now params id ifMatch patch body)
  | .destroyApplication params id ifMatch => do
    requireStaff user
    single (Catalogue.destroyApplication env.engine db params id ifMatch)
  | .setMembership params id ifMatch attach moduleId => do
    requireStaff user
    single (updateModuleMembership env.engine db now params id ifMatch attach moduleId)
  | .publishVersion params id ifMatch body => do
    requireStaff user
    let _ ← getOr404 env.engine (applicationQuery db params) db.applications id
    let expected ← expectedRevision ifMatch "application version publication"
    ensure body.isValid invalidBody
    return (db, [.publishVersion id body.normalized body.metadata expected])
  | .createDataset body => do
    requireStaff user
    ensure (body.isValid db false 0) invalidBody
    return (db, [.insertDataset body])
  | .updateDataset params id ifMatch patch body => do
    requireStaff user
    single (Catalogue.updateDataset env.engine env.locale db user now params id ifMatch patch body)
  | .destroyDataset params id ifMatch => do
    requireStaff user
    single (Catalogue.destroyDataset env.engine env.locale db user params id ifMatch)
  | .createModule body => do
    requireStaff user
    single (Catalogue.createModule env.py env.engine db now body)
  | .updateModule conditions id patch body => do
    requireStaff user
    single (Catalogue.updateModule env.py env.engine db conditions id patch body)
  | .destroyModule conditions id => do
    requireStaff user
    single (Catalogue.destroyModule env.engine db conditions id)
  | .createUser body validPassword => do
    requireSuperuser user
    ensure (body.isValid env db none false false && validPassword) invalidBody
    return (db, [.insertUser (User.create env body) body.groupIds])
  | .updateUser conditions id patch body => do
    requireSuperuser user
    let u ← getObject env conditions db.users id
    ensure (body.isValid env db (some id) patch u.oidcIdentity) invalidBody
    ensure (!u.oidcIdentity || (u.protectedFields body).isEmpty)
      (.response (answer 409 (.protectedFields ("Stable OIDC ACL users cannot change their " ++
        "username or privilege flags through the User API.") (u.protectedFields body))))
    return (db, [.saveUser id (u.assign body) body.groupIds])
  | .destroyUser conditions id => do
    requireSuperuser user
    let u ← getObject env conditions db.users id
    ensure (!u.oidcIdentity) (.response (answer 409 (.detail ("This technical user is protected " ++
      "by an OIDC ACL identity and cannot be deleted through the User API."))))
    return (db, [.deleteUser id])
  | .createGroup body => do
    requireSuperuser user
    ensure (body.isValid db none false) invalidBody
    return (db, [.insertGroup ⟨(body.name.map strip).getD ""⟩])
  | .updateGroup conditions id patch body => do
    requireSuperuser user
    let g ← getObject env conditions db.groups id
    ensure (body.isValid db (some id) patch) invalidBody
    return (db, [.saveGroup id ⟨(body.name.map strip).getD g.name⟩])
  | .destroyGroup conditions id => do
    requireSuperuser user
    let _ ← getObject env conditions db.groups id
    return (db, [.deleteGroup id])
  | .autoDiscover files => do
    requireStaff user
    single (Catalogue.autoDiscover env.py env.engine now db files)

/-! ### Runs -/

/-- The committed database, and what the requests under way have still to do. -/
structure World where
  db : Database
  threads : List (List Task)

/-- No request is under way. -/
def World.start (db : Database) : World := ⟨db, []⟩

/-- What happens next. -/
inductive Event where
  | request (user : Principal) (now : Time) (req : Request)
  /-- The thread runs its next transaction. -/
  | resume (thread : ℕ) (now : Time)

def World.begin (w : World) : Handler (Database × List Task) → World
  | .ok (db, tasks) => ⟨db, w.threads ++ [tasks]⟩
  | .error _ => w

/-- A thread goes on after its transaction; one that raised has ended. -/
def World.continue (w : World) (thread : ℕ) (rest : List Task) :
    Handler (Database × List Task) → World
  | .ok (db, next) => ⟨db, w.threads.set thread (next ++ rest)⟩
  | .error _ => ⟨w.db, w.threads.set thread []⟩

def step (env : Environment) (w : World) : Event → Option World
  | .request user now req => some (w.begin (req.handle env user w.db now))
  | .resume thread now =>
    match w.threads[thread]? with
    | some (task :: rest) => some (w.continue thread rest (task.run env w.db now))
    | _ => none

end ArchiDeal.Catalogue
