import ArchiDeal.Catalogue.Views

/-!
# Modules

`ModuleViewSet` of `apps/hosting/views.py`, with the JSON bodies of its requests as they are sent:
its guard reads the body before the serializer converts it.
-/

namespace ArchiDeal.Catalogue

open Text Hosting Fields

/-! ### The body of a module -/

/-- How Python converts the values of a body. -/
structure Conversions extends FloatText where
  /-- `str` of a list or an object. -/
  repr : Json → String
  lower : String → String
  casefold : String → String

/-- `str(v)`. -/
def Conversions.text (py : Conversions) (v : Json) : String := pyStr py.toFloatText py.repr v

def deploymentTargets : List String := ["compose", "swarm", "kubernetes", "external"]

/-- The validated fields of `ModuleSerializer` that a body names. -/
structure ModuleValues where
  name : Option String
  slug : Option String
  image : Option String
  branch : Option String
  repositoryOwner : Option String
  repositoryName : Option String
  sourcePath : Option String
  deploymentTarget : Option String
  publicPath : Option String
  upstreamHost : Option String
  upstreamPort : Option (Option ℤ)
  healthcheckPath : Option String
  contractTopics : Option Json
  enabled : Option Bool

/-- The largest value of a `PositiveIntegerField`. -/
def maxPositiveInteger : Engine → ℤ
  | .sqlite => 9223372036854775807
  | .postgresql => 2147483647

/-- `JSONField`, which does not accept `null`. -/
def jsonField : Json → Option Json
  | .null => none
  | v => some v

/-- The fields of `ModuleSerializer`, without the uniqueness of the name and the slug. -/
def moduleValues (py : Conversions) (engine : Engine) (body : Json) : Option ModuleValues := do
  let _ ← if body.isObj then some () else none
  let name ← optional body "name" (charField py.toFloatText 80 false)
  let slug ← optional body "slug" (slugField py.toFloatText 80)
  let image ← optional body "image" (charField py.toFloatText 255 false)
  let branch ← optional body "branch" (charField py.toFloatText 120 false)
  let repositoryOwner ← optional body "repository_owner" (charField py.toFloatText 120 true)
  let repositoryName ← optional body "repository_name" (charField py.toFloatText 120 true)
  let sourcePath ← optional body "source_path" (charField py.toFloatText 255 true)
  let deploymentTarget ← optional body "deployment_target" (choiceField deploymentTargets)
  let publicPath ← optional body "public_path" (charField py.toFloatText 120 true)
  let upstreamHost ← optional body "upstream_host" (charField py.toFloatText 255 true)
  let upstreamPort ← optional body "upstream_port"
    (nullable (integerField py.toFloatText 0 (maxPositiveInteger engine)))
  let healthcheckPath ← optional body "healthcheck_path" (charField py.toFloatText 255 true)
  let contractTopics ← optional body "contract_topics" jsonField
  let enabled ← optional body "enabled" (booleanField py.lower)
  return { name, slug, image, branch, repositoryOwner, repositoryName, sourcePath, deploymentTarget,
           publicPath, upstreamHost, upstreamPort, healthcheckPath, contractTopics, enabled }

/-- `setattr` for the validated fields. -/
def Module.assign (m : Module) (v : ModuleValues) : Module where
  name := v.name.getD m.name
  slug := v.slug.getD m.slug
  image := v.image.getD m.image
  branch := v.branch.getD m.branch
  repositoryOwner := v.repositoryOwner.getD m.repositoryOwner
  repositoryName := v.repositoryName.getD m.repositoryName
  sourcePath := v.sourcePath.getD m.sourcePath
  deploymentTarget := v.deploymentTarget.getD m.deploymentTarget
  publicPath := v.publicPath.getD m.publicPath
  upstreamHost := v.upstreamHost.getD m.upstreamHost
  upstreamPort := (v.upstreamPort.map fun port => port.map Int.toNat).getD m.upstreamPort
  healthcheckPath := v.healthcheckPath.getD m.healthcheckPath
  contractTopics := v.contractTopics.getD m.contractTopics
  enabled := v.enabled.getD m.enabled
  createdAt := m.createdAt

/-- The row of a new module before its values are set. -/
def Module.blank (now : Time) : Module where
  name := ""
  slug := ""
  image := ""
  branch := "main"
  repositoryOwner := ""
  repositoryName := ""
  sourcePath := ""
  deploymentTarget := "compose"
  publicPath := ""
  upstreamHost := ""
  upstreamPort := none
  healthcheckPath := ""
  contractTopics := .arr []
  enabled := true
  createdAt := now

/-- The required fields are there, and no other module than `instance?` has the name or the slug. -/
def ModuleValues.isValid (v : ModuleValues) (modules : Table ℕ Module) (instance? : Option ℕ)
    (patch : Bool) : Bool :=
  (patch || (v.name.isSome && v.slug.isSome && v.image.isSome)) &&
    !modules.any fun i m =>
      some i != instance? && (v.name.any (· == m.name) || v.slug.any (· == m.slug))

/-! ### The guard of a routable module -/

def hasRevocationSensitiveRoute (m : Module) : Bool :=
  !(strip m.publicPath).toList.isEmpty && !(strip m.upstreamHost).toList.isEmpty &&
    m.upstreamPort.isSome

/-- The value of `enabled` that the guard takes for a withdrawal. -/
def disables (py : Conversions) : Json → Bool
  | .bool b => !b
  | .str s => py.casefold (strip s) ∈ ["0", "false", "no", "off"]
  | _ => false

/-- `field in data and str(data.get(field)) != str(getattr(module, field))`. -/
def changesText (py : Conversions) (body : Json) (field current : String) : Bool :=
  (body.get? field).any fun v => py.text v != current

/-- `int(v)`: `none` for a `TypeError` or a `ValueError`, which the guard catches. It does not catch
the `OverflowError` of an infinite float. -/
def requestedPort (py : Conversions) : Json → Handler (Option ℤ)
  | .bool b => .ok (some (if b then 1 else 0))
  | .int n => .ok (some n)
  | .float f => match py.int f with
    | some n => .ok (some n)
    | none => .error (.database .unexpected)
  | .str s => .ok (pyInt s)
  | _ => .ok none

def requestsRouteRevocation (py : Conversions) (m : Module) (body : Json) : Handler Bool :=
  if (body.get? "enabled").any (disables py) || changesText py body "slug" m.slug ||
      changesText py body "public_path" m.publicPath ||
      changesText py body "upstream_host" m.upstreamHost then .ok true
  else match body.get? "upstream_port" with
    | none => .ok false
    | some v => do
      let port ← requestedPort py v
      return port.any fun port => m.upstreamPort.map Int.ofNat != some port

def routeRevocationUnavailable : Stop :=
  .response (answer 409 (.problem "route_revocation_unavailable"
    ("This module has routable metadata and may already own a dynamic APISIX route. Disabling, " ++
      "deleting, renaming or retargeting it is blocked until audited route revocation is " ++
      "implemented.")))

/-! ### The handlers of modules -/

/-- `ModuleViewSet.get_queryset`: every condition of its parameters is on a column of the row. -/
def moduleQuery (conditions : Module → Bool) : Query (ℕ × Module) :=
  Query.all.filter fun row => conditions row.2

def Database.saveModule (db : Database) (id : ℕ) (m : Module) : Database :=
  { db with modules := db.modules.insert id m }

def createModule (py : Conversions) (engine : Engine) (db : Database) (now : Time) (body : Json) :
    Handler (Response × Database) :=
  match moduleValues py engine body with
  | none => .error invalidBody
  | some v => do
    ensure (v.isValid db.modules none false) invalidBody
    let m := (Module.blank now).assign v
    return (answer 201 (.module db.nextId m),
      { db.saveModule db.nextId m with nextId := db.nextId + 1 })

/-- The guard of `ModuleViewSet.update`. -/
def guardRoute (py : Conversions) (m : Module) (body : Json) : Handler Unit :=
  if hasRevocationSensitiveRoute m then do
    let revokes ← requestsRouteRevocation py m body
    ensure (!revokes) routeRevocationUnavailable
  else .ok ()

def updateModule (py : Conversions) (engine : Engine) (db : Database) (conditions : Module → Bool)
    (id : ℕ) (patch : Bool) (body : Json) : Handler (Response × Database) := do
  let m ← getOr404 engine (moduleQuery conditions).selectForUpdate db.modules id
  guardRoute py m body
  match moduleValues py engine body with
  | none => .error invalidBody
  | some v =>
    ensure (v.isValid db.modules (some id) patch) invalidBody
    return (answer 200 (.module id (m.assign v)), db.saveModule id (m.assign v))

/-- `ModuleViewSet.destroy`; a runtime profile protects its module. -/
def destroyModule (engine : Engine) (db : Database) (conditions : Module → Bool) (id : ℕ) :
    Handler (Response × Database) := do
  let m ← getOr404 engine (moduleQuery conditions).selectForUpdate db.modules id
  ensure (!hasRevocationSensitiveRoute m) routeRevocationUnavailable
  ensure (db.profiles.lookup id).isNone (.database .isProtected)
  return (answer 204 .empty, db.deleteModule id)

end ArchiDeal.Catalogue
