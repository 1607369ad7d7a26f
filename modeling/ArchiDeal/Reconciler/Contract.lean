import ArchiDeal.Hosting.Release
import ArchiDeal.Lib.JsonOrder

/-!
# The contract of the runtime controller

`dealhost/runtime_controller_service/contract.py`: the payload that the control plane sends, checked
field by field, and the normalized payload that the controller stores. The patterns shared with the
control plane are those of `ArchiDeal.Hosting.Release`.
-/

namespace ArchiDeal.Reconciler

open Text Hosting

/-! ### Settings and errors -/

/-- `ControllerSettings`, as far as the reconciler reads it. -/
structure ControllerSettings where
  environment : String
  namespaceName : String
  allowedImagePrefixes : List String
  workloadServiceAccount : String
  imagePullSecret : String
  secretNamePrefix : String
  secretCatalogName : String
  secretCatalogNamespace : String
  maxReplicas : ℕ
  deriving DecidableEq

/-- What the controller raises. -/
inductive ControllerError
  | contract (detail : String) (code : String := "invalid_runtime_contract") (status : ℕ := 422)
  /-- The `ContractError` of `_exact_fields`, before its lists are written out. -/
  | fields (label : String) (missing unknown : List String)
  | notFound
  | conflict (detail : String)
  /-- Any other exception. -/
  | unexpected
  deriving DecidableEq

/-! ### Parsed payloads -/

inductive DesiredState
  | running
  | stopped
  | absent
  deriving DecidableEq

def DesiredState.value : DesiredState → String
  | running => "running"
  | stopped => "stopped"
  | absent => "absent"

/-- One group of `resources`. -/
structure ResourceGroup where
  cpu : String
  memory : String
  deriving DecidableEq

structure ComponentResources where
  requests : ResourceGroup
  limits : ResourceGroup
  deriving DecidableEq

/-- A component of the manifest, as `_parse_profile` returns it. -/
structure ManifestComponent where
  moduleId : ℕ
  slug : String
  image : String
  containerPort : ℕ
  healthcheckPath : String
  resources : ComponentResources
  plainKeys : List String
  secretKeys : List String
  deriving DecidableEq

structure Component extends ManifestComponent where
  configuration : List (String × String)
  secretRefs : List (String × String)
  scaling : ScalingPolicy
  deriving DecidableEq

structure DesiredDeployment where
  deploymentId : String
  environment : String
  generation : ℕ
  desiredState : DesiredState
  releaseDigest : String
  manifest : Json
  components : List Component
  normalizedPayload : Json
  deriving DecidableEq

/-! ### Fields -/

def object (value : Option Json) (label : String) : Except ControllerError Json :=
  match value with
  | some (.obj kvs) => .ok (.obj kvs)
  | _ => .error (.contract s!"{label} must be a JSON object.")

def exactFields (value : Json) (allowed : List String) (label : String)
    (optional : List String := []) : Except ControllerError Unit :=
  let unknown := value.keys.filter fun k => !allowed.contains k
  let missing := allowed.filter fun k => !optional.contains k && !value.keys.contains k
  ensure (unknown.isEmpty && missing.isEmpty) (.fields label missing unknown)

def positiveInt (value : Option Json) (label : String) : Except ControllerError ℕ :=
  match value with
  | some (.int n) =>
    if 1 ≤ n then .ok n.toNat else .error (.contract s!"{label} must be a positive integer.")
  | _ => .error (.contract s!"{label} must be a positive integer.")

/-- A canonical UUID: lower case, with hyphens. -/
def isCanonicalUuid (s : String) : Bool :=
  s.toList.length == 36 && s.toList.zipIdx.all fun p =>
    if p.2 = 8 ∨ p.2 = 13 ∨ p.2 = 18 ∨ p.2 = 23 then p.1 == '-' else hexDigit p.1

def validateDeploymentId (value : Option Json) : Except ControllerError String :=
  match value with
  | some (.str s) =>
    if isCanonicalUuid s then .ok s
    else .error (.contract "The deployment identifier must be a canonical UUID."
      "invalid_runtime_contract" 400)
  | _ => .error (.contract "The deployment identifier must be a canonical UUID."
      "invalid_runtime_contract" 400)

/-- The text of a field that must be a string with the property `p`. -/
def stringField (value : Option Json) (p : String → Bool) (e : ControllerError) :
    Except ControllerError String :=
  match value with
  | some (.str s) => if p s then .ok s else .error e
  | _ => .error e

/-- `_IMAGE`: `[a-z0-9](?:[-a-z0-9._/]*[a-z0-9])?@sha256:[0-9a-f]{64}`. -/
def isImage (s : String) : Bool :=
  edged lowerDigit repositoryChar (s.toList.takeWhile (· != '@')) &&
    isDigestSuffix (s.toList.dropWhile (· != '@'))

/-! ### The runtime profile of a component -/

/-- One group of `_resources`. -/
def resourceGroup (resources : Json) (slug group : String) :
    Except ControllerError ResourceGroup := do
  let entries ← object (resources.get? group) s!"Resource {group} for {slug}"
  exactFields entries ["cpu", "memory"] s!"Resource {group} for {slug}"
  let cpu ← stringField (entries.get? "cpu") isCpu
    (.contract s!"CPU {group} for {slug} is invalid.")
  let memory ← stringField (entries.get? "memory") isMemory
    (.contract s!"Memory {group} for {slug} is invalid.")
  pure ⟨cpu, memory⟩

/-- `_resources`; a quantity of more than 4300 digits is a `ValueError`. -/
def parseResources (value : Option Json) (slug : String) :
    Except ControllerError ComponentResources := do
  let resources ← object value s!"Resources for {slug}"
  exactFields resources ["requests", "limits"] s!"Resources for {slug}"
  let requests ← resourceGroup resources slug "requests"
  let limits ← resourceGroup resources slug "limits"
  let above : Except ControllerError ComponentResources :=
    .error (.contract s!"Resource requests for {slug} cannot exceed limits.")
  match cpuMillis requests.cpu, cpuMillis limits.cpu with
  | some rc, some lc =>
    if rc > lc then above
    else match memoryKib requests.memory, memoryKib limits.memory with
      | some rm, some lm => if rm > lm then above else pure ⟨requests, limits⟩
      | _, _ => throw .unexpected
  | _, _ => throw .unexpected

def keySet (configuration : Json) (group slug : String) : Except ControllerError (List String) :=
  match configurationKeys configuration group with
  | some keys => .ok keys
  | none => .error (.contract s!"Configuration schema keys for {slug} are invalid.")

def parseProfile (moduleId : ℕ) (slug image : String) (spec : Json) :
    Except ControllerError ManifestComponent := do
  exactFields spec ["kind", "container_port", "healthcheck_path", "resources", "configuration",
    "network_egress"] s!"Runtime profile for {slug}" ["configuration", "network_egress"]
  ensure ((spec.get? "kind").any (·.eqStr "deployment"))
    (.contract s!"Only stateless deployments are supported for {slug}.")
  let port ← positiveInt (spec.get? "container_port") "container_port"
  ensure (port ≤ 65535) (.contract s!"Container port for {slug} is invalid.")
  let health ← stringField (spec.get? "healthcheck_path") isHealthcheckPath
    (.contract s!"Healthcheck path for {slug} is invalid.")
  let resources ← parseResources (spec.get? "resources") slug
  let configuration ← object (some ((spec.get? "configuration").getD (.obj [])))
    s!"Configuration schema for {slug}"
  exactFields configuration ["plain", "secret"] s!"Configuration schema for {slug}"
    ["plain", "secret"]
  let plain ← keySet configuration "plain" slug
  let secret ← keySet configuration "secret" slug
  ensure (plain.all fun k => !secret.contains k)
    (.contract s!"Configuration keys for {slug} cannot be both plain and secret.")
  match (spec.get? "network_egress").getD (.arr []) with
  | .arr [] => pure ⟨moduleId, slug, image, port, health, resources, plain, secret⟩
  | .arr (_ :: _) =>
    throw (.contract
      s!"FQDN network egress for {slug} is not enforced by this controller and is rejected."
      "network_egress_unsupported")
  | _ => throw (.contract s!"Network egress for {slug} is invalid.")

/-! ### The manifest of a release -/

/-- One round of the loop of `_parse_manifest`; `parsed` are the components before this one. -/
def parseModule (settings : ControllerSettings) (parsed : List ManifestComponent) (raw : Json) :
    Except ControllerError ManifestComponent := do
  let component ← object (some raw) "Release component"
  exactFields component ["module_id", "slug", "image", "profile_schema_version", "profile_digest",
    "spec"] "Release component"
  let moduleId ← positiveInt (component.get? "module_id") "module_id"
  let slug ← stringField (component.get? "slug")
    (fun slug => isComponentSlug slug && !parsed.any (·.slug == slug) &&
      !parsed.any (·.moduleId == moduleId))
    (.contract "Release component identities must be unique and canonical.")
  let image ← stringField (component.get? "image")
    (fun image => isImage image &&
      settings.allowedImagePrefixes.any fun p => p.toList.isPrefixOf image.toList)
    (.contract s!"Image for {slug} is not an allowed immutable digest." "image_policy_rejected")
  ensure ((component.get? "profile_schema_version").any (·.eqInt 1))
    (.contract s!"Runtime profile for {slug} is unsupported.")
  let spec ← object (component.get? "spec") s!"Runtime profile for {slug}"
  let _ ← stringField (component.get? "profile_digest")
    (fun digest => isHexDigest digest && sha256Json spec == digest)
    (.contract s!"Runtime profile digest for {slug} is invalid.")
  parseProfile moduleId slug image spec

/-- The loop of `_parse_manifest`. -/
def parseModules (settings : ControllerSettings) : List ManifestComponent → List Json →
    Except ControllerError (List ManifestComponent)
  | parsed, [] => pure parsed
  | parsed, raw :: rest => do
    let component ← parseModule settings parsed raw
    parseModules settings (parsed ++ [component]) rest

def parseManifest (settings : ControllerSettings) (manifest : Json) :
    Except ControllerError (List ManifestComponent) := do
  exactFields manifest ["schema_version", "application", "version", "version_source", "modules"]
    "Release manifest"
  ensure ((manifest.get? "schema_version").any (·.eqInt 1))
    (.contract "The release manifest schema is unsupported.")
  let application ← object (manifest.get? "application") "Release application"
  exactFields application ["id", "slug"] "Release application"
  ensure (match application.get? "id" with
      | some (.int _) => true
      | _ => false) (.contract "The release application identifier is invalid.")
  let _ ← stringField (application.get? "slug") (· != "")
    (.contract "The release application slug is invalid.")
  let _ ← stringField (manifest.get? "version") (· != "")
    (.contract "The release version is invalid.")
  let _ ← stringField (manifest.get? "version_source") (fun _ => true)
    (.contract "The release version source is invalid.")
  match manifest.get? "modules" with
  | some (.arr modules) => do
    ensure (1 ≤ modules.length && modules.length ≤ 20)
      (.contract "A release must contain between 1 and 20 components.")
    parseModules settings [] modules
  | _ => throw (.contract "A release must contain between 1 and 20 components.")

/-! ### Configuration, secret references and scaling -/

/-- `_component_mapping`: the entries of each slug. -/
def componentMapping (value : Option Json) (label : String) :
    Except ControllerError (List (String × List (String × Json))) := do
  match ← object value label with
  | .obj kvs => kvs.mapM fun p => do
    ensure (isComponentSlug p.1) (.contract s!"{label} contains an invalid component slug.")
    let slug := p.1
    match p.2 with
    | .obj entries => pure (slug, entries)
    | _ => throw (.contract s!"{label} for {slug} must be a JSON object.")
  | _ => throw .unexpected

/-- The loop of `_validate_values`; `total` is the number of bytes so far. -/
def validateEntries (allowed : List String) (slug : String) (secret : Bool) :
    ℕ → List (String × Json) → Except ControllerError (List (String × String))
  | _, [] => pure []
  | total, (key, value) :: rest => do
    ensure (isEnvKey key && allowed.contains key)
      (.contract s!"Configuration key {key} is not allowed for {slug}.")
    let text ← stringField (some value)
      (fun text => text.length ≤ 2048 && !text.toList.contains '\x00')
      (.contract s!"Configuration value for {key} is invalid.")
    ensure (!secret || isSecretName text) (.contract s!"Secret reference for {key} is invalid.")
    let total := total + key.utf8ByteSize + text.utf8ByteSize
    ensure (total ≤ 16384) (.contract s!"Configuration for {slug} exceeds 16 KiB.")
    let more ← validateEntries allowed slug secret total rest
    pure ((key, text) :: more)

def validateValues (values : List (String × Json)) (allowed : List String) (slug : String)
    (secret : Bool) : Except ControllerError (List (String × String)) := do
  ensure (values.length ≤ 50) (.contract s!"Too many configuration values for {slug}.")
  validateEntries allowed slug secret 0 values

def scalingPolicy (value : Option Json) (slug : String) (maximumAllowed : ℕ) :
    Except ControllerError ScalingPolicy := do
  let policy ← object value s!"Scaling for {slug}"
  if (policy.get? "mode").any (·.eqStr "fixed") then
    exactFields policy ["mode", "replicas"] s!"Scaling for {slug}"
    let replicas ← positiveInt (policy.get? "replicas") "replicas"
    ensure (replicas ≤ maximumAllowed)
      (.contract s!"Fixed scaling for {slug} exceeds the controller replica limit.")
    pure (.fixed replicas)
  else if (policy.get? "mode").any (·.eqStr "autoscale") then
    exactFields policy ["mode", "min_replicas", "max_replicas", "target_cpu_utilization"]
      s!"Scaling for {slug}"
    let minimum ← positiveInt (policy.get? "min_replicas") "min_replicas"
    let maximum ← positiveInt (policy.get? "max_replicas") "max_replicas"
    let target ← positiveInt (policy.get? "target_cpu_utilization") "target_cpu_utilization"
    ensure (minimum ≤ maximum && maximum ≤ maximumAllowed && 10 ≤ target && target ≤ 90)
      (.contract s!"Autoscaling for {slug} violates controller limits.")
    pure (.autoscale minimum maximum target)
  else throw (.contract s!"Scaling mode for {slug} is unsupported.")

/-! ### The payload -/

/-- The check that a mapping names only components of the release. -/
def knownSlugs (label : String) (slugs expected : List String) : Except ControllerError Unit :=
  let unknown := slugs.filter fun s => !expected.contains s
  let names := ", ".intercalate (unknown.mergeSort Text.le)
  ensure unknown.isEmpty (.contract s!"{label} contains unknown components: {names}.")

/-- `payload.get("desired_state")`, checked against the allowed states. A list or an object cannot
be looked up in a set. -/
def desiredStateField (value : Option Json) (allowAbsent : Bool) :
    Except ControllerError DesiredState :=
  let unsupported : Except ControllerError DesiredState :=
    .error (.contract "The requested desired state is unsupported by this operation.")
  match value with
  | some (.str s) =>
    if s = "running" then .ok .running
    else if s = "stopped" then .ok .stopped
    else if s = "absent" ∧ allowAbsent then .ok .absent
    else unsupported
  | some (.arr _) | some (.obj _) => .error .unexpected
  | _ => unsupported

/-- One round of the loop over the components of the manifest. -/
def desiredComponent (settings : ControllerSettings)
    (configuration secretRefs : List (String × List (String × Json))) (scaling : Json)
    (c : ManifestComponent) : Except ControllerError Component := do
  let plain ← validateValues ((configuration.lookup c.slug).getD []) c.plainKeys c.slug false
  let secret ← validateValues ((secretRefs.lookup c.slug).getD []) c.secretKeys c.slug true
  let policy ← scalingPolicy (scaling.get? c.slug) c.slug settings.maxReplicas
  pure ⟨c, plain, secret, policy⟩

/-- The values of one kind by component, as a JSON object. -/
def byComponent (components : List Component) (values : Component → Json) : Json :=
  .obj (components.map fun c => (c.slug, values c))

/-- A JSON object of strings. -/
def stringMap (kvs : List (String × String)) : Json := .obj (kvs.map fun p => (p.1, .str p.2))

def normalizedPayload (deploymentId environment : String) (generation : ℕ) (state : DesiredState)
    (releaseDigest : String) (manifest : Json) (components : List Component) : Json :=
  .obj [("deployment_id", .str deploymentId), ("environment", .str environment),
    ("generation", .int generation), ("desired_state", .str state.value),
    ("release", .obj [("digest", .str releaseDigest), ("manifest", manifest)]),
    ("configuration", byComponent components fun c => stringMap c.configuration),
    ("secret_refs", byComponent components fun c => stringMap c.secretRefs),
    ("scaling", byComponent components fun c => c.scaling.toJson)]

def parseDesiredDeployment (settings : ControllerSettings) (allowAbsent : Bool) (value : Json) :
    Except ControllerError DesiredDeployment := do
  let payload ← object (some value) "Runtime payload"
  exactFields payload ["deployment_id", "environment", "generation", "desired_state", "release",
    "configuration", "secret_refs", "scaling"] "Runtime payload"
  let deploymentId ← validateDeploymentId (payload.get? "deployment_id")
  let environment ← stringField (payload.get? "environment") (· == settings.environment)
    (.contract "The requested runtime environment is not managed by this controller."
      "environment_not_managed" 409)
  let generation ← positiveInt (payload.get? "generation") "generation"
  let state ← desiredStateField (payload.get? "desired_state") allowAbsent
  let release ← object (payload.get? "release") "Release"
  exactFields release ["digest", "manifest"] "Release"
  let manifest ← object (release.get? "manifest") "Release manifest"
  let digest ← stringField (release.get? "digest") isHexDigest
    (.contract "The release digest is invalid.")
  ensure (sha256Json manifest == digest)
    (.contract "The release manifest does not match its digest." "release_integrity_failed")
  let parsed ← parseManifest settings manifest
  let configuration ← componentMapping (payload.get? "configuration") "Configuration"
  let secretRefs ← componentMapping (payload.get? "secret_refs") "Secret references"
  let scaling ← object (payload.get? "scaling") "Scaling"
  let expected := parsed.map (·.slug)
  knownSlugs "Configuration" (configuration.map Prod.fst) expected
  knownSlugs "Secret references" (secretRefs.map Prod.fst) expected
  knownSlugs "Scaling" scaling.keys expected
  ensure (expected.all (scaling.keys.contains ·))
    (.contract "Scaling must define every release component.")
  let components ← parsed.mapM (desiredComponent settings configuration secretRefs scaling)
  pure ⟨deploymentId, environment, generation, state, digest, manifest, components,
    normalizedPayload deploymentId environment generation state digest manifest components⟩

end ArchiDeal.Reconciler
