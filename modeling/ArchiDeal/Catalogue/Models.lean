import ArchiDeal.Hosting.Release
import ArchiDeal.Lib.Query
import Mathlib.Data.Finset.Basic
import Mathlib.Data.Finset.Sort

/-!
# The catalogue

The rows of `apps/hosting/models.py` that `apps/hosting/views.py` manages (modules, applications and
tools with their versions, datasets), the users and groups of `django.contrib.auth` that the access
lists of datasets name, and the transactions of the views.

A many-to-many relation is kept as a set of keys in the row of the owner; deleting a row removes its
key from every such set.
-/

namespace ArchiDeal.Catalogue

open Text
open Hosting (Engine ModuleRuntimeProfile Time)

/-! ### Rows -/

structure Module where
  name : String
  slug : String
  image : String
  branch : String
  repositoryOwner : String
  repositoryName : String
  sourcePath : String
  deploymentTarget : String
  publicPath : String
  upstreamHost : String
  upstreamPort : Option ℕ
  healthcheckPath : String
  contractTopics : Json
  enabled : Bool
  createdAt : Time
  deriving DecidableEq

/-- What `HostedApplication` and `Dataset` have in common. -/
structure Entry where
  name : String
  slug : String
  description : String
  enabled : Bool
  revision : ℕ
  createdAt : Time
  updatedAt : Time
  modules : Finset ℕ
  revision_pos : 0 < revision
  deriving DecidableEq

structure ApplicationVersion where
  version : String
  notes : String
  source : String
  runtimeSnapshot : Json
  runtimeSnapshotDigest : String
  createdAt : Time
  deriving DecidableEq

/-- `HostedApplication`, with its versions in the order in which they were published. -/
structure Application extends Entry where
  currentVersion : String
  releasedAt : Option Time
  versions : List ApplicationVersion
  deriving DecidableEq

structure ToolVersion where
  version : String
  notes : String
  source : String
  createdAt : Time
  deriving DecidableEq

/-- `Tool`, with its versions in the order in which they were published. -/
structure Tool where
  name : String
  slug : String
  description : String
  modules : Finset ℕ
  currentVersion : String
  releasedAt : Option Time
  enabled : Bool
  createdAt : Time
  updatedAt : Time
  versions : List ToolVersion
  deriving DecidableEq

structure Dataset extends Entry where
  users : Finset ℕ
  groups : Finset ℕ
  deriving DecidableEq

theorem Application.pos (a : Application) : 0 < a.revision := a.revision_pos

theorem Application.succ_pos (a : Application) : 0 < a.revision + 1 := a.revision.succ_pos

theorem Dataset.pos (d : Dataset) : 0 < d.revision := d.revision_pos

structure User where
  username : String
  isActive : Bool
  isStaff : Bool
  isSuperuser : Bool
  groups : Finset ℕ
  /-- An `OIDCAclIdentity` protects the row. -/
  oidcIdentity : Bool
  deriving DecidableEq

structure Group where
  name : String
  deriving DecidableEq

/-- The database, with the sequences that number its rows. -/
structure Database where
  modules : Table ℕ Module
  /-- `ModuleRuntimeProfile`, by module. -/
  profiles : Table ℕ ModuleRuntimeProfile
  applications : Table ℕ Application
  tools : Table ℕ Tool
  datasets : Table ℕ Dataset
  users : Table ℕ User
  groups : Table ℕ Group
  /-- The applications that a `RuntimeDeployment` or a `RuntimeRelease` protects. -/
  deployed : Finset ℕ
  /-- The next key of every sequence. -/
  nextId : ℕ

def Database.empty : Database := ⟨∅, ∅, ∅, ∅, ∅, ∅, ∅, ∅, 1⟩

/-! ### Transactions -/

inductive DatabaseError where
  /-- `NotSupportedError`: the engine cannot lock the rows of the query. -/
  | notSupported
  /-- `DataError`, or `OverflowError`: a number is out of range. -/
  | outOfRange
  | integrity
  | isProtected
  /-- `MultipleObjectsReturned`. -/
  | multiple
  /-- An exception of the handler itself, such as a `TypeError`. -/
  | unexpected
  deriving DecidableEq

structure DiscoveryReport where
  modulesCreated : ℕ := 0
  modulesUpdated : ℕ := 0
  toolsCreated : ℕ := 0
  toolsUpdated : ℕ := 0
  toolVersionsCreated : ℕ := 0
  applicationsCreated : ℕ := 0
  applicationsUpdated : ℕ := 0
  applicationVersionsCreated : ℕ := 0
  rolledBack : Bool := false
  errorCount : ℕ := 0
  errors : List String := []
  deriving DecidableEq

inductive Content where
  | empty
  | detail (text : String)
  /-- `code` and `detail`. -/
  | problem (code detail : String)
  /-- The answer to a stale revision. -/
  | stale (detail : String) (revision : ℕ)
  /-- The errors of a serializer. -/
  | invalid
  | protectedFields (detail : String) (fields : List String)
  | application (id : ℕ) (row : Application)
  | version (row : ApplicationVersion)
  | module (id : ℕ) (row : Module)
  /-- The representation for readers. -/
  | dataset (id : ℕ) (row : Entry)
  /-- The representation for staff. -/
  | datasetAdmin (id : ℕ) (row : Dataset)
  | datasets (rows : List (ℕ × Entry))
  | datasetsAdmin (rows : List (ℕ × Dataset))
  | report (report : DiscoveryReport)
  deriving DecidableEq

structure Response where
  status : ℕ
  content : Content
  etag : Option String
  deriving DecidableEq

/-- A response without `ETag`. -/
def answer (status : ℕ) (content : Content) : Response := ⟨status, content, none⟩

/-- Why a handler stops early: it returns or raises a response, or the database raises. -/
inductive Stop where
  | response (r : Response)
  | database (e : DatabaseError)

/-- A handler within its transaction. -/
abbrev Handler (α : Type) := Except Stop α

/-- The response and the committed database: a transaction that stops early has changed nothing, and
an exception of the database is answered with 500. -/
def finish (db : Database) : Handler (Response × Database) → Response × Database
  | .ok (r, db') => (r, db')
  | .error (.response r) => (r, db)
  | .error (.database _) => (answer 500 .empty, db)

/-- A query, on an engine: SQLite has no row locks and ignores the clause. -/
def select {α : Type} [DecidableEq α] (engine : Engine) (q : Query α) (table : List α) :
    Handler (List α) :=
  match engine with
  | .sqlite => .ok (q.rows table)
  | .postgresql => if q.lockable then .ok (q.rows table) else .error (.database .notSupported)

/-- The rows of a table with their keys. -/
def rowsOf {α : Type} (t : Table ℕ α) : List (ℕ × α) := t.entries.map fun e => (e.1, e.2)

/-- `get_object_or_404(queryset, pk=…)`. -/
def getOr404 {α : Type} [DecidableEq α] (engine : Engine) (q : Query (ℕ × α)) (t : Table ℕ α)
    (pk : ℕ) : Handler α := do
  match ← select engine (q.filter fun row => row.1 == pk) (rowsOf t) with
  | [] => .error (.response (answer 404 (.detail "Not found.")))
  | [row] => .ok row.2
  | _ => .error (.database .multiple)

/-- The value fits a `PositiveBigIntegerField`. -/
def bigint (n : ℕ) : Handler Unit := ensure (n < 2 ^ 63) (.database .outOfRange)

/-! ### Deletions -/

/-- A module is deleted: its key is removed from every relation. -/
def Database.deleteModule (db : Database) (id : ℕ) : Database :=
  { db with
    modules := db.modules.erase id
    applications := db.applications.mapRows fun _ a => { a with modules := a.modules.erase id }
    tools := db.tools.mapRows fun _ t => { t with modules := t.modules.erase id }
    datasets := db.datasets.mapRows fun _ d => { d with modules := d.modules.erase id } }

def Database.deleteUser (db : Database) (id : ℕ) : Database :=
  { db with
    users := db.users.erase id
    datasets := db.datasets.mapRows fun _ d => { d with users := d.users.erase id } }

def Database.deleteGroup (db : Database) (id : ℕ) : Database :=
  { db with
    groups := db.groups.erase id
    users := db.users.mapRows fun _ u => { u with groups := u.groups.erase id }
    datasets := db.datasets.mapRows fun _ d => { d with groups := d.groups.erase id } }

/-! ### Preconditions -/

def revisionEtag (revision : ℕ) : String := "\"" ++ toString revision ++ "\""

/-- `_if_match_revision`, where `some (.error _)` is a `ValueError`. -/
def ifMatchRevision (value : Option String) : Except String (Option ℕ) :=
  match value with
  | none => .ok none
  | some value =>
    match (strip value).toList with
    | '"' :: cs =>
      if cs.getLast? = some '"' ∧ positiveNumeral cs.dropLast then
        match toInt cs.dropLast with
        | some n => .ok (some n)
        | none => .error "Exceeds the limit (4300 digits) for integer string conversion"
      else .error "If-Match must contain a strong revision ETag such as \"3\"."
    | _ => .error "If-Match must contain a strong revision ETag such as \"3\"."

/-- The revision of the `If-Match` header; `what` names the request whose header is missing. -/
def expectedRevision (ifMatch : Option String) (what : String) : Handler ℕ :=
  match ifMatchRevision ifMatch with
  | .error message => .error (.response (answer 400 (.detail message)))
  | .ok none => .error (.response (answer 428 (.detail s!"If-Match is required for {what}.")))
  | .ok (some n) => .ok n

/-- `_stale_revision_response` and its counterpart for datasets. -/
def staleRevision (resource : String) (revision : ℕ) : Stop :=
  .response ⟨412, .stale s!"The {resource} changed after it was loaded." revision,
    some (revisionEtag revision)⟩

end ArchiDeal.Catalogue
