import ArchiDeal.Hosting.Controller
import ArchiDeal.Lib.Check
import ArchiDeal.Lib.Sha256

/-!
# Immutable releases

`apps/hosting/runtime_release.py`: the runtime snapshot of a published version, the manifest made
of it, and `runtime_release_for`, which freezes both on the first deployment of a version. The
functions that write return the database beside their result: an exception does not undo what
was saved before it, the caller's transaction decides that.
-/

namespace ArchiDeal.Hosting

open Text

/-- What `runtime_release_for` can raise. -/
inductive ReleaseException
  /-- `RuntimeReleaseNotDeployable`. -/
  | notDeployable (detail : String) (code : String := "release_not_deployable")
  | integrity
  /-- Any other exception. -/
  | other
  deriving DecidableEq

/-- The database engine (`database_config`). -/
inductive Engine
  | sqlite
  | postgresql
  deriving DecidableEq

def sha256Json (v : Json) : String := Sha256.hexdigest v.canonical

theorem isHexDigest_sha256Json (v : Json) : isHexDigest (sha256Json v) = true :=
  Sha256.isHexDigest_hexdigest _

/-! ### Patterns -/

/-- `[A-Z][A-Z0-9_]{0,63}`. -/
def isEnvKey (s : String) : Bool :=
  headed upper (fun c => upper c || digit c || c == '_') 0 63 s.toList

/-- `[a-z0-9](?:[a-z0-9-]{0,61}[a-z0-9])?`. -/
def isSecretName (s : String) : Bool :=
  edged lowerDigit (fun c => lowerDigit c || c == '-') s.toList && s.length ≤ 63

/-- `@sha256:[0-9a-f]{64}`. -/
def isDigestSuffix (cs : List Char) : Bool :=
  "@sha256:".toList.isPrefixOf cs && isHexDigest (String.ofList (cs.drop 8))

/-- The class of the inner characters of a repository. -/
def repositoryChar (c : Char) : Bool := lowerDigit c || c == '.' || c == '_' || c == '/' || c == '-'

/-- `IMAGE_DIGEST_PATTERN`: `[a-z0-9][-a-z0-9._/]*[a-z0-9]@sha256:[0-9a-f]{64}`. No character of the
repository is an `@`, so that the repository is what stands before the first one. -/
def isImageDigest (s : String) : Bool :=
  let repository := s.toList.takeWhile (· != '@')
  edged lowerDigit repositoryChar repository && 2 ≤ repository.length &&
    isDigestSuffix (s.toList.dropWhile (· != '@'))

/-- `CPU_VALUE_PATTERN`: `[1-9][0-9]*|[1-9][0-9]*m`. -/
def isCpu (s : String) : Bool :=
  positiveNumeral s.toList || (s.toList.getLast? == some 'm' && positiveNumeral s.toList.dropLast)

/-- `MEMORY_VALUE_PATTERN`: `[1-9][0-9]*(?:Ki|Mi|Gi)`. -/
def isMemory (s : String) : Bool :=
  match s.toList.reverse with
  | 'i' :: unit :: rest =>
    (unit == 'K' || unit == 'M' || unit == 'G') && positiveNumeral rest.reverse
  | _ => false

/-- `_cpu_millis`; `none` is a `ValueError`. -/
def cpuMillis (s : String) : Option ℕ :=
  if s.toList.getLast? = some 'm' then toInt s.toList.dropLast
  else (toInt s.toList).map (· * 1000)

/-- `_memory_kib`; `none` is a `ValueError`. -/
def memoryKib (s : String) : Option ℕ :=
  (toInt (s.toList.take (s.length - 2))).map fun n =>
    match s.toList.reverse with
    | _ :: 'M' :: _ => n * 1024
    | _ :: 'G' :: _ => n * (1024 * 1024)
    | _ => n

def segments : List Char → List (List Char)
  | [] => [[]]
  | c :: cs =>
    if c = '/' then [] :: segments cs
    else match segments cs with
      | [] => [[c]]
      | s :: ss => (c :: s) :: ss

/-- `[a-z0-9](?:[a-z0-9.-]*[a-z0-9])?(?::[0-9]{1,5})?`. -/
def isRegistryHost (cs : List Char) : Bool :=
  let port := cs.dropWhile (· != ':')
  edged lowerDigit (fun c => lowerDigit c || c == '.' || c == '-') (cs.takeWhile (· != ':')) &&
    (port.isEmpty || (port.tail.all digit && 1 ≤ port.tail.length && port.tail.length ≤ 5))

/-- `REGISTRY_PREFIX_PATTERN`: a host, path segments, and a final slash. -/
def isRegistryPrefix (s : String) : Bool :=
  match segments s.toList with
  | [] => false
  | host :: path =>
    isRegistryHost host && path.getLast? == some [] &&
      path.dropLast.all (edged lowerDigit fun c => lowerDigit c || c == '.' || c == '_' || c == '-')

/-! ### The snapshot of the catalogue -/

/-- The profile of a module in the snapshot. `json.loads(canonical_json(spec))` is the
specification with its keys sorted. -/
def profileSnapshot (p : ModuleRuntimeProfile) : Json :=
  .obj [("schema_version", .int p.schemaVersion), ("spec", p.spec.sortKeys),
    ("spec_digest", .str p.specDigest), ("enabled", .bool p.enabled),
    ("verified_at", match p.verifiedAt with
      | some t => .str (isoformat t)
      | none => .null)]

def moduleSnapshot (id : ℕ) (m : Module) : Json :=
  .obj [("module_id", .int id), ("slug", .str m.slug), ("image", .str m.image),
    ("enabled", .bool m.enabled), ("deployment_target", .str m.deploymentTarget.value),
    ("profile", match m.runtimeProfile with
      | some p => profileSnapshot p
      | none => .null)]

def applicationModules (db : Database) (app : HostedApplication) : List (ℕ × Module) :=
  (app.modules.filterMap fun i => (db.modules.lookup i).map fun m => (i, m)).insertionSort
    fun a b => a.2.slug ≤ b.2.slug

/-- `snapshot_application_runtime`. The query locks the rows of an outer join with the profiles,
which PostgreSQL does not support; SQLite has no row locks and runs it. -/
def snapshotApplicationRuntime (engine : Engine) (db : Database) (appId : ℕ)
    (app : HostedApplication) : Except ReleaseException Json :=
  match engine with
  | .postgresql => .error .other
  | .sqlite =>
    .ok (.obj [("schema_version", .int 1),
      ("application", .obj [("id", .int appId), ("slug", .str app.slug)]),
      ("modules", .arr ((applicationModules db app).map fun m => moduleSnapshot m.1 m.2))])

/-! ### The profile of a module -/

/-- The keys of one group of a configuration schema, when they are valid. -/
def configurationKeys (configuration : Json) (group : String) : Option (List String) :=
  match (configuration.get? group).getD (.arr []) with
  | .arr xs => match Json.strings xs with
    | some ks => if ks.length ≤ 50 ∧ ks.all isEnvKey ∧ ks.Nodup then some ks else none
    | none => none
  | _ => none

/-- Is this item of `network_egress` a host and a port? -/
def isEgressRule (item : Json) : Bool :=
  item.exactly ["host", "port"] &&
    match item.get? "host", item.get? "port" with
    | some (.str host), some (.int port) =>
      host != "" && host.length ≤ 253 && !hasSpace host && 1 ≤ port && port ≤ 65535
    | _, _ => false

/-- `/…`, not `//…`, at most 255 characters, none of them whitespace. -/
def isHealthcheckPath (s : String) : Bool :=
  "/".toList.isPrefixOf s.toList && !"//".toList.isPrefixOf s.toList && s.length ≤ 255 &&
    !hasSpace s

/-- The check of one group of `resources`. -/
def validateResourceGroup (slug : String) (resources : Json) (group : String) :
    Except ReleaseException (String × String) := do
  let values := (resources.get? group).getD .null
  ensure (values.exactly ["cpu", "memory"])
    (.notDeployable s!"Runtime profile for {slug} has incomplete resources.")
  match values.get? "cpu", values.get? "memory" with
  | some (.str cpu), some (.str memory) => do
    ensure (isCpu cpu && isMemory memory)
      (.notDeployable s!"Runtime profile for {slug} has invalid resource values.")
    pure (cpu, memory)
  | _, _ => throw (.notDeployable s!"Runtime profile for {slug} has invalid resource values.")

def validateResources (slug : String) (spec : Json) : Except ReleaseException Unit := do
  let resources := (spec.get? "resources").getD .null
  ensure (resources.exactly ["requests", "limits"])
    (.notDeployable s!"Runtime profile for {slug} must declare requests and limits.")
  let requests ← validateResourceGroup slug resources "requests"
  let limits ← validateResourceGroup slug resources "limits"
  match cpuMillis requests.1, cpuMillis limits.1 with
  | some rc, some lc =>
    -- `or` is lazy: the memory quantities are read only when the processor ones are in order
    if rc > lc then
      throw (.notDeployable s!"Runtime profile for {slug} has requests above its limits.")
    else match memoryKib requests.2, memoryKib limits.2 with
      | some rm, some lm =>
        ensure (rm ≤ lm)
          (.notDeployable s!"Runtime profile for {slug} has requests above its limits.")
      | _, _ => throw .other
  | _, _ => throw .other

def validateConfigurationSchema (slug : String) (spec : Json) : Except ReleaseException Unit := do
  let configuration := (spec.get? "configuration").getD (.obj [])
  ensure (configuration.within ["plain", "secret"])
    (.notDeployable s!"Runtime profile for {slug} has an invalid configuration schema.")
  match configurationKeys configuration "plain", configurationKeys configuration "secret" with
  | some plain, some secret =>
    ensure (plain.all fun k => !secret.contains k)
      (.notDeployable s!"Runtime profile for {slug} reuses plain keys as secrets.")
  | _, _ => throw (.notDeployable s!"Runtime profile for {slug} has invalid configuration keys.")

def validateProfileSnapshot (slug : String) (profile : Json) : Except ReleaseException Json := do
  ensure (Json.isTrue (profile.get? "enabled") &&
      match profile.get? "verified_at" with
      | some (.str t) => t != ""
      | _ => false)
    (.notDeployable s!"Runtime profile for {slug} is not enabled and verified.")
  let spec := (profile.get? "spec").getD .null
  ensure ((profile.get? "schema_version").any (·.eqInt 1) && spec.isObj)
    (.notDeployable s!"Runtime profile for {slug} uses an unsupported schema.")
  ensure ((profile.get? "spec_digest").any (·.eqStr (sha256Json spec)))
    (.notDeployable s!"Runtime profile digest for {slug} does not match its spec.")
  ensure (spec.within ["kind", "container_port", "healthcheck_path", "resources", "configuration",
      "network_egress"])
    (.notDeployable s!"Runtime profile for {slug} contains unsupported fields.")
  ensure ((spec.get? "kind").any (·.eqStr "deployment"))
    (.notDeployable s!"Runtime profile for {slug} is not a stateless deployment.")
  ensure (match spec.get? "container_port" with
      | some (.int p) => 1 ≤ p && p ≤ 65535
      | _ => false)
    (.notDeployable s!"Runtime profile for {slug} has an invalid container port.")
  ensure (match spec.get? "healthcheck_path" with
      | some (.str p) => isHealthcheckPath p
      | _ => false)
    (.notDeployable s!"Runtime profile for {slug} has an invalid healthcheck path.")
  validateResources slug spec
  validateConfigurationSchema slug spec
  ensure (match (spec.get? "network_egress").getD (.arr []) with
      | .arr rules => rules.all isEgressRule
      | _ => false)
    (.notDeployable s!"Runtime profile for {slug} has invalid egress rules.")
  pure spec.sortKeys

/-! ### The manifest -/

/-- One module of the manifest; `ids` and `slugs` are those of the modules before it. -/
def manifestModule (ids : List ℤ) (slugs : List String) (raw : Json) :
    Except ReleaseException (ℤ × String × Json) := do
  ensure raw.isObj
    (.notDeployable "The published runtime snapshot has an invalid module catalog.")
  match raw.get? "module_id", raw.get? "slug" with
  | some (.int id), some (.str slug) => do
    ensure (1 ≤ id && !ids.contains id && isComponentSlug slug && !slugs.contains slug)
      (.notDeployable "The published runtime snapshot has invalid component identifiers.")
    ensure (Json.isTrue (raw.get? "enabled")) (.notDeployable s!"Module {slug} is disabled.")
    ensure ((raw.get? "deployment_target").any (·.eqStr "kubernetes"))
      (.notDeployable s!"Module {slug} is not declared for Kubernetes.")
    let image ← match raw.get? "image" with
      | some (.str image) =>
        if isImageDigest image then pure image
        else throw (.notDeployable s!"Module {slug} must use an immutable sha256 image digest.")
      | _ => throw (.notDeployable s!"Module {slug} must use an immutable sha256 image digest.")
    let profile := (raw.get? "profile").getD .null
    ensure profile.isObj (.notDeployable s!"Module {slug} has no reviewed runtime profile.")
    let spec ← validateProfileSnapshot slug profile
    pure (id, slug, .obj [("module_id", .int id), ("slug", .str slug), ("image", .str image),
      ("profile_schema_version", (profile.get? "schema_version").getD .null),
      ("profile_digest", (profile.get? "spec_digest").getD .null), ("spec", spec)])
  | _, _ =>
    throw (.notDeployable "The published runtime snapshot has invalid component identifiers.")

def manifestModules : List ℤ → List String → List Json → Except ReleaseException (List Json)
  | _, _, [] => pure []
  | ids, slugs, raw :: rest => do
    let m ← manifestModule ids slugs raw
    let more ← manifestModules (m.1 :: ids) (m.2.1 :: slugs) rest
    pure (m.2.2 :: more)

def manifestFromSnapshot (v : ApplicationVersion) (appId : ℕ) (snapshot : Json) :
    Except ReleaseException Json := do
  let application := (snapshot.get? "application").getD .null
  match snapshot.get? "modules" with
  | some (.arr raw) => do
    ensure ((snapshot.get? "schema_version").any (·.eqInt 1) && application.isObj &&
        (application.get? "id").any (·.eqInt appId) &&
        (match application.get? "slug" with
          | some (.str _) => true
          | _ => false) &&
        !raw.isEmpty && raw.length ≤ 20)
      (.notDeployable "The published runtime snapshot has an invalid module catalog.")
    let modules ← manifestModules [] [] raw
    pure (.obj [("schema_version", .int 1), ("application", application),
      ("version", .str v.version), ("version_source", .str v.source), ("modules", .arr modules)])
  | _ => throw (.notDeployable "The published runtime snapshot has an invalid module catalog.")

/-! ### The policy of an environment -/

/-- The check of one module of the manifest. -/
def validateModulePolicy (registries : List String) (capabilities : Json) (module : Json) :
    Except ReleaseException Unit := do
  ensure module.isObj
    (.notDeployable "The immutable runtime release has an invalid module catalog.")
  let slug := match module.get? "slug" with
    | some (.str s) => s
    | some v => String.ofList v.dumps
    | none => "module"
  ensure (match module.get? "image" with
      | some (.str image) => registries.any fun p => p.toList.isPrefixOf image.toList
      | _ => false)
    (.notDeployable s!"Image registry for {slug} is not allowed.")
  ensure (!((module.get? "spec").any Json.isObj &&
      (((module.get? "spec").bind (·.get? "network_egress")).any Json.truthy) &&
      !Json.isTrue (capabilities.get? "network_egress")))
    (.notDeployable s!"Network egress requested by {slug} is not supported in this environment.")

/-- The secret names of a policy, when they are valid. -/
def policySecretRefs (policy : Json) : Option (List String) :=
  match policy.get? "allowed_secret_refs" with
  | some (.arr xs) => match Json.strings xs with
    | some ks => if ks.length ≤ 100 ∧ ks.all isSecretName ∧ ks.Nodup then some ks else none
    | none => none
  | _ => none

/-- The registry prefixes of a policy, when they are valid. -/
def policyRegistries (policy : Json) : Option (List String) :=
  match (policy.get? "allowed_registries").getD (.arr []) with
  | .arr xs => match Json.strings xs with
    | some ks => if ks.all isRegistryPrefix then some ks else none
    | none => none
  | _ => none

/-- Apply a check to every item, in order. -/
def checkAll (check : Json → Except ReleaseException Unit) :
    List Json → Except ReleaseException Unit
  | [] => pure ()
  | x :: xs => do
    check x
    checkAll check xs

def validateEnvironmentPolicy (manifest : Json) (env : RuntimeEnvironment) :
    Except ReleaseException Unit := do
  ensure (env.enabled && env.orchestrator == "kubernetes")
    (.notDeployable "The runtime environment is not enabled.")
  ensure (env.policy.isObj && env.capabilities.isObj)
    (.notDeployable "The runtime environment policy is invalid.")
  match policyRegistries env.policy with
  | none => throw (.notDeployable "The runtime registry policy is invalid.")
  | some registries => do
    ensure (Json.isTrue (env.policy.get? "requires_image_digest"))
      (.notDeployable "The runtime environment must require immutable image digests.")
    ensure (Json.isTrue (env.policy.get? "stateless_only"))
      (.notDeployable "The runtime environment must enforce stateless workloads.")
    ensure (policySecretRefs env.policy).isSome
      (.notDeployable "The runtime environment secret-reference policy is invalid.")
    match manifest.get? "modules" with
    | some (.arr modules) => checkAll (validateModulePolicy registries env.capabilities) modules
    | _ =>
      throw (.notDeployable "The immutable runtime release has an invalid module catalog.")

/-! ### The release -/

def validateReleaseIntegrity (release : RuntimeRelease) (v : ApplicationVersion) (appId : ℕ) :
    Except ReleaseException Unit := do
  ensure (release.manifest.isObj && sha256Json release.manifest == release.manifestDigest &&
      (release.manifest.get? "schema_version").any (·.eqInt 1) &&
      (release.manifest.get? "version").any (·.eqStr v.version))
    (.notDeployable "The immutable runtime release failed its integrity check.")
  let application := (release.manifest.get? "application").getD .null
  ensure (v.application == appId && application.isObj &&
      (application.get? "id").any (·.eqInt appId) &&
      (match application.get? "slug" with
        | some (.str _) => true
        | _ => false) &&
      (match release.manifest.get? "modules" with
        | some (.arr raw) => !raw.isEmpty
        | _ => false))
    (.notDeployable "The immutable runtime release has an invalid application catalog.")

/-- A version from before runtime snapshots existed. -/
def ApplicationVersion.legacy (v : ApplicationVersion) : Bool :=
  !v.runtimeSnapshot.truthy && v.runtimeSnapshotDigest == ""

/-- The write of `_version_runtime_snapshot`: a version without a snapshot gets one, and keeps
it. -/
def materializeSnapshot (engine : Engine) (db : Database) (appId : ℕ) (app : HostedApplication)
    (vid : ℕ) (v : ApplicationVersion) : Except ReleaseException ApplicationVersion × Database :=
  if v.legacy then
    match snapshotApplicationRuntime engine db appId app with
    | .error e => (.error e, db)
    | .ok snapshot =>
      let v' := { v with
        runtimeSnapshot := snapshot
        runtimeSnapshotDigest := sha256Json snapshot }
      (.ok v', { db with versions := db.versions.insert vid v' })
  else (.ok v, db)

def checkSnapshot (v : ApplicationVersion) : Except ReleaseException Json := do
  ensure (v.runtimeSnapshot.isObj && isHexDigest v.runtimeSnapshotDigest &&
      sha256Json v.runtimeSnapshot == v.runtimeSnapshotDigest)
    (.notDeployable "The published runtime snapshot failed its integrity check.")
  pure v.runtimeSnapshot

/-- The manifest of a version whose snapshot is in place, if the environment accepts it. -/
def deployableManifest (v : ApplicationVersion) (appId : ℕ) (env : RuntimeEnvironment) :
    Except ReleaseException Json := do
  let snapshot ← checkSnapshot v
  let manifest ← manifestFromSnapshot v appId snapshot
  validateEnvironmentPolicy manifest env
  pure manifest

/-- `RuntimeRelease.objects.get_or_create` and the final check. The caller holds the lock of the
application and has just found no release of the version, so that the row is always created. -/
def createRelease (db : Database) (appId vid : ℕ) (v : ApplicationVersion) (manifest : Json) :
    Except ReleaseException (ℕ × RuntimeRelease) × Database :=
  let release : RuntimeRelease := ⟨vid, manifest, sha256Json manifest⟩
  if db.releases.any fun _ r => r.manifestDigest == release.manifestDigest then
    (.error .integrity, db)
  else
    let id := db.releases.nextKey
    ((validateReleaseIntegrity release v appId).map fun _ => (id, release),
      { db with releases := db.releases.insert id release })

def runtimeReleaseFor (engine : Engine) (db : Database) (appId : ℕ) (app : HostedApplication)
    (version : String) (env : RuntimeEnvironment) :
    Except ReleaseException (ℕ × RuntimeRelease) × Database :=
  match db.versions.find fun _ v => v.application == appId && v.version == version with
  | none =>
    (.error (.notDeployable "Only published application versions can be deployed."), db)
  | some (vid, v) =>
    match db.releases.find fun _ r => r.applicationVersion == vid with
    | some (rid, release) =>
      ((do
        validateReleaseIntegrity release v appId
        validateEnvironmentPolicy release.manifest env
        pure (rid, release)), db)
    | none =>
      match materializeSnapshot engine db appId app vid v with
      | (.error e, db) => (.error e, db)
      | (.ok v, db) =>
        match deployableManifest v appId env with
        | .error e => (.error e, db)
        | .ok manifest => createRelease db appId vid v manifest

end ArchiDeal.Hosting
