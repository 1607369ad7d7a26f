import ArchiDeal.Catalogue.Modules

/-!
# Autodiscovery

`auto_discover_tools_and_applications` of `apps/hosting/discovery.py`: one transaction that reads
the manifests in the order of their names. A manifest that is rejected is counted, and what it did
until then stays visible to the manifests after it; the whole transaction is rolled back at its end
if the report has errors, and at once if the database raises.
-/

namespace ArchiDeal.Catalogue

open Text Hosting Fields

/-! ### Manifests -/

/-- The content of a file; `none` if it is no JSON text in UTF-8. -/
abbrev Manifest := Option Json

def publicAutodiscoveryError : String :=
  "Autodiscovery failed; details are available in server logs."

def DiscoveryReport.addError (r : DiscoveryReport) : DiscoveryReport :=
  { r with errorCount := r.errorCount + 1
           errors := if r.errors.isEmpty then [publicAutodiscoveryError] else r.errors }

section Values

variable (py : Conversions) (payload : Json)

/-- `str(payload.get(field, default))`. -/
def manifestText (field default : String) : String := (payload.get? field).elim default py.text

/-- `_read_manifest`: the payload and its normalized version; `none` is a `ValueError`. -/
def readManifest (required : List String) (file : Manifest) : Option (Json × Option String) := do
  let data ← file
  let _ ← if data.isObj && required.all fun field => (data.get? field).any Json.truthy then some ()
    else none
  match (data.get? "version").filter Json.truthy with
  | none => some (data, none)
  | some raw =>
    let normalized := strip (py.text raw)
    if isSemver normalized then
      some (data, some (String.ofList (normalized.toList.dropWhile (· == 'v'))))
    else none

/-- `_as_bool(value, True)`. -/
def asBool : Option Json → Bool
  | none | some .null => true
  | some (.bool b) => b
  | some (.str s) => py.lower (strip s) ∈ ["1", "true", "yes", "on"]
  | some v => v.truthy

def asIntOrNone : Option Json → Option (Option ℤ)
  | none | some .null => some none
  | some (.str s) => if s.toList.isEmpty then some none else (pyInt s).map some
  | some v => (pyInt (py.text v)).map some

def asStringList : Option Json → Json
  | some (.arr items) =>
    .arr (((items.map py.text).filter fun s => !(strip s).toList.isEmpty).map .str)
  | _ => .arr []

/-- The values that the loop over `payload.get("module_slugs", [])` goes through; `none` is a
`TypeError`. -/
def moduleSlugs : Option (List Json) :=
  match payload.get? "module_slugs" with
  | none => some []
  | some (.arr items) => some items
  | some (.str s) => some (s.toList.map fun c => .str (String.ofList [c]))
  | some (.obj kvs) => some (kvs.map fun kv => .str kv.1)
  | some _ => none

end Values

def extractModules (modules : Table ℕ Module) (slugs : List Json) : List ℕ × List String :=
  (slugs.filterMap fun v => match v with
    | .str slug => (modules.find fun _ m => m.slug == slug).map (·.1)
    | _ => none,
   slugs.filterMap fun v => match v with
    | .str slug => if modules.any fun _ m => m.slug == slug then none else some slug
    | _ => none)

/-! ### Columns -/

/-- The texts fit their columns: PostgreSQL refuses long ones and zero bytes. -/
def fits (engine : Engine) (columns : List (ℕ × String)) : Except DatabaseError Unit :=
  match engine with
  | .sqlite => .ok ()
  | .postgresql =>
    ensure (columns.all fun c => c.2.toList.length ≤ c.1 && !c.2.toList.contains '\x00') .outOfRange

/-- A text column without limit. -/
def unlimited (s : String) : ℕ × String := (s.toList.length, s)

def topicTexts : Json → List String
  | .arr items => items.filterMap fun v => match v with
    | .str s => some s
    | _ => none
  | _ => []

/-- The columns of a module; `jsonb` refuses zero bytes in the topics, too. -/
def Module.columns (m : Module) : List (ℕ × String) :=
  [(80, m.name), (80, m.slug), (255, m.image), (120, m.branch), (120, m.repositoryOwner),
    (120, m.repositoryName), (255, m.sourcePath), (32, m.deploymentTarget), (120, m.publicPath),
    (255, m.upstreamHost), (255, m.healthcheckPath)] ++
    (topicTexts m.contractTopics).map unlimited

/-- A value of `upstream_port`: the column is positive and limited. -/
def portColumn (engine : Engine) : Option ℤ → Except DatabaseError (Option ℕ)
  | none => .ok none
  | some n => do
    ensure (n ≤ maxPositiveInteger engine) .outOfRange
    ensure (0 ≤ n) .integrity
    return some n.toNat

/-! ### The three loops -/

/-- The transaction so far. -/
structure Discovery where
  db : Database
  report : DiscoveryReport

def Discovery.reject (s : Discovery) : Discovery := { s with report := s.report.addError }

section Loops

variable (py : Conversions) (engine : Engine) (now : Time)

/-- The module of a manifest; `m` is the row that is there, or a blank one. -/
def manifestModule (payload : Json) (port : Option ℕ) (m : Module) : Module where
  name := manifestText py payload "name" ""
  slug := manifestText py payload "slug" ""
  image := manifestText py payload "image" ""
  branch := manifestText py payload "branch" "main"
  repositoryOwner := manifestText py payload "repository_owner" ""
  repositoryName := manifestText py payload "repository_name" ""
  sourcePath := manifestText py payload "source_path" ""
  deploymentTarget := manifestText py payload "deployment_target" "compose"
  publicPath := manifestText py payload "public_path" ""
  upstreamHost := manifestText py payload "upstream_host" ""
  upstreamPort := port
  healthcheckPath := manifestText py payload "healthcheck_path" ""
  contractTopics := asStringList py (payload.get? "contract_topics")
  enabled := asBool py (payload.get? "enabled")
  createdAt := m.createdAt

/-- `Module.objects.update_or_create` for the payload of a manifest. -/
def saveManifestModule (s : Discovery) (payload : Json) (port : Option ℤ) :
    Except DatabaseError Discovery := do
  let port ← portColumn engine port
  let found := s.db.modules.find fun _ m => m.slug == manifestText py payload "slug" ""
  let id := (found.map (·.1)).getD s.db.nextId
  let m := manifestModule py payload port ((found.map (·.2)).getD (Module.blank now))
  fits engine m.columns
  ensure (!s.db.modules.any fun i other => i != id && other.name == m.name) .integrity
  if found.isSome then
    return ⟨s.db.saveModule id m,
      { s.report with modulesUpdated := s.report.modulesUpdated + 1 }⟩
  else
    return ⟨{ s.db.saveModule id m with nextId := s.db.nextId + 1 },
      { s.report with modulesCreated := s.report.modulesCreated + 1 }⟩

/-- The loop over the manifests of modules. -/
def discoverModule (s : Discovery) (file : Manifest) : Except DatabaseError Discovery :=
  match readManifest py ["name", "slug", "image"] file with
  | none => .ok s.reject
  | some (payload, _) =>
    match asIntOrNone py (payload.get? "upstream_port") with
    | none => .ok s.reject
    | some port => saveManifestModule py engine now s payload port

/-- The row of a new tool before its values are set. -/
def Tool.blank (now : Time) : Tool where
  name := ""
  slug := ""
  description := ""
  modules := ∅
  currentVersion := "0.1.0"
  releasedAt := none
  enabled := true
  createdAt := now
  updatedAt := now
  versions := []

/-- `publish_immutable_version` for a tool: the row and whether the version is new; `none` is a
`VersionMetadataConflict`. -/
def Tool.publish (t : Tool) (version : String) (metadata : String × String) (now : Time) :
    Option (Tool × Bool) :=
  match t.versions.find? (·.version == version) with
  | some v => if v.notes == metadata.1 && v.source == metadata.2 then some (t, false) else none
  | none =>
    some ({ t with
      currentVersion := version
      releasedAt := some now
      updatedAt := now
      versions := t.versions ++ [⟨version, metadata.1, metadata.2, now⟩] }, true)

/-- The tool of a manifest; `t` is the row that is there, or a blank one. -/
def manifestTool (payload : Json) (modules : Finset ℕ) (t : Tool) : Tool :=
  { t with
    name := manifestText py payload "name" ""
    slug := manifestText py payload "slug" ""
    description := manifestText py payload "description" ""
    enabled := asBool py (payload.get? "enabled")
    modules := modules
    updatedAt := now }

def Database.saveTool (db : Database) (id : ℕ) (t : Tool) : Database :=
  { db with tools := db.tools.insert id t }

/-- `Tool.objects.update_or_create` and `tool.modules.set`: the key, the row, and whether it is
new. -/
def saveManifestTool (db : Database) (payload : Json) (modules : Finset ℕ) :
    Except DatabaseError (ℕ × Tool × Bool × Database) := do
  let found := db.tools.find fun _ row => row.slug == manifestText py payload "slug" ""
  let id := (found.map (·.1)).getD db.nextId
  let row := manifestTool py now payload modules ((found.map (·.2)).getD (Tool.blank now))
  fits engine [(80, row.name), (80, row.slug), unlimited row.description]
  ensure (!db.tools.any fun i other => i != id && other.name == row.name) .integrity
  if found.isSome then return (id, row, false, db.saveTool id row)
  else return (id, row, true, { db.saveTool id row with nextId := db.nextId + 1 })

/-- The version of a manifest; `none` if it conflicts with one that is there. -/
def publishToolVersion (db : Database) (id : ℕ) (row : Tool) (payload : Json)
    (version : Option String) : Except DatabaseError (Option (Bool × Database)) :=
  match version with
  | none => .ok (some (false, db))
  | some version => do
    let notes := manifestText py payload "version_notes" ""
    fits engine [(32, version), unlimited notes]
    match row.publish version (notes, "autodiscovery") now with
    | none => return none
    | some (row, published) => return some (published, db.saveTool id row)

/-- The loop over the manifests of tools. -/
def discoverTool (s : Discovery) (file : Manifest) : Except DatabaseError Discovery :=
  match readManifest py ["name", "slug"] file with
  | none => .ok s.reject
  | some (payload, version) =>
    match moduleSlugs payload with
    | none => .error .unexpected
    | some slugs => do
      let (modules, missing) := extractModules s.db.modules slugs
      let (id, row, created, db) ← saveManifestTool py engine now s.db payload modules.toFinset
      match ← publishToolVersion py engine now db id row payload version with
      | none => return Discovery.reject ⟨db, s.report⟩
      | some (published, db) =>
        let r := s.report
        let r := if published then { r with toolVersionsCreated := r.toolVersionsCreated + 1 }
          else r
        let r := if created then { r with toolsCreated := r.toolsCreated + 1 }
          else { r with toolsUpdated := r.toolsUpdated + 1 }
        return ⟨db, if missing.isEmpty then r else r.addError⟩

/-- The application after its manifest: the revision advances if something changes. -/
def Application.synchronize (a : Application) (name description : String) (enabled : Bool)
    (modules : Finset ℕ) (now : Time) : Application :=
  if a.name = name ∧ a.description = description ∧ a.enabled = enabled ∧ a.modules = modules then a
  else { a with
    name := name
    description := description
    enabled := enabled
    modules := modules
    revision := a.revision + 1
    updatedAt := now
    revision_pos := a.succ_pos }

def manifestApplication (name slug description : String) (enabled : Bool) (modules : Finset ℕ) :
    Application where
  name := name
  slug := slug
  description := description
  enabled := enabled
  revision := 1
  createdAt := now
  updatedAt := now
  modules := modules
  revision_pos := Nat.one_pos
  currentVersion := "0.1.0"
  releasedAt := none
  versions := []

/-- `get_or_create` and the synchronization of an application: its key, and whether it is new. -/
def saveManifestApplication (db : Database) (payload : Json) (modules : Finset ℕ) :
    Except DatabaseError (ℕ × Bool × Database) := do
  let name := manifestText py payload "name" ""
  let slug := manifestText py payload "slug" ""
  let description := manifestText py payload "description" ""
  let enabled := asBool py (payload.get? "enabled")
  fits engine [(80, name), (80, slug), unlimited description]
  match db.applications.find fun _ a => a.slug == slug with
  | some (id, a) =>
    ensure (!db.applications.any fun i other => i != id && other.name == name) .integrity
    let saved := a.synchronize name description enabled modules now
    ensure (saved.revision < 2 ^ 63) .outOfRange
    return (id, false, db.saveApplication id saved)
  | none =>
    ensure (!db.applications.any fun _ other => other.name == name) .integrity
    return (db.nextId, true,
      { db.saveApplication db.nextId (manifestApplication now name slug description enabled modules)
        with nextId := db.nextId + 1 })

/-- The version of a manifest; a `VersionMetadataConflict` rejects it. The flags say whether the
manifest is accepted so far, and whether a version was created. -/
def publishManifestVersion (db : Database) (id : ℕ) (payload : Json) (version : Option String) :
    Except DatabaseError (Bool × Bool × Database) :=
  match version with
  | none => .ok (true, false, db)
  | some version => do
    let notes := manifestText py payload "version_notes" ""
    fits engine [(32, version), unlimited notes]
    match publishImmutableVersion engine db now id version (notes, "autodiscovery") none with
    | .ok (publication, db') => .ok (true, publication.created, db')
    | .error (.response _) => .ok (false, false, db)
    | .error (.database e) => .error e

/-- The loop over the manifests of applications. -/
def discoverApplication (s : Discovery) (file : Manifest) : Except DatabaseError Discovery :=
  match readManifest py ["name", "slug"] file with
  | none => .ok s.reject
  | some (payload, version) =>
    match moduleSlugs payload with
    | none => .error .unexpected
    | some slugs => do
      let (modules, missing) := extractModules s.db.modules slugs
      let (id, created, db) ←
        saveManifestApplication py engine now s.db payload modules.toFinset
      let (accepted, published, db) ← publishManifestVersion py engine now db id payload version
      if accepted then
        let r := s.report
        let r := if published then
          { r with applicationVersionsCreated := r.applicationVersionsCreated + 1 } else r
        let r := if created then { r with applicationsCreated := r.applicationsCreated + 1 }
          else { r with applicationsUpdated := r.applicationsUpdated + 1 }
        return ⟨db, if missing.isEmpty then r else r.addError⟩
      else return Discovery.reject ⟨db, s.report⟩

/-- The manifests of one call, in the order of their file names. -/
structure Manifests where
  modules : List Manifest
  tools : List Manifest
  applications : List Manifest

/-- The loops of `auto_discover_tools_and_applications`. -/
def discover (db : Database) (files : Manifests) : Except DatabaseError Discovery := do
  let s ← files.modules.foldlM (discoverModule py engine now) ⟨db, {}⟩
  let s ← files.tools.foldlM (discoverTool py engine now) s
  files.applications.foldlM (discoverApplication py engine now) s

def autoDiscover (db : Database) (files : Manifests) : Handler (Response × Database) :=
  match discover py engine now db files with
  | .error e => .error (.database e)
  | .ok s =>
    if s.report.errors.isEmpty then .ok (answer 200 (.report s.report), s.db)
    else .error (.response (answer 200 (.report
      { rolledBack := true, errorCount := s.report.errorCount, errors := s.report.errors })))

end Loops

end ArchiDeal.Catalogue
