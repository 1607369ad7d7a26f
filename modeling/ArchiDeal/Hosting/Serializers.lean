import ArchiDeal.Hosting.Release

/-!
# Validation and representation of deployments

`apps/hosting/serializers.py`: the checks of `configuration`, `secret_refs` and `scaling` against
the manifest of a release and the capabilities of an environment, the representation of a
deployment (`RuntimeDeploymentSerializer`) and of the result of an operation. Every caller passes
a manifest, so the rules are always read from one. A `ValidationError` is its text.
-/

namespace ArchiDeal.Hosting

open Text

/-! ### Configuration and secret references -/

/-- The keys that a module of the manifest allows. -/
structure ProfileRules where
  plain : List String
  secret : List String

/-- The rules of one module of the manifest; `rules` are those of the modules before it. -/
def profileRule (rules : List (String × ProfileRules)) (raw : Json) :
    Except String (String × ProfileRules) := do
  match raw.get? "slug", raw.get? "spec" with
  | some (.str slug), some spec => do
    ensure (slug != "" && !(rules.map Prod.fst).contains slug && spec.isObj)
      "The immutable runtime release has an invalid module contract."
    let configuration := (spec.get? "configuration").getD (.obj [])
    ensure configuration.isObj
      s!"Runtime release for {slug} has an invalid configuration contract."
    match (configuration.get? "plain").getD (.arr []),
      (configuration.get? "secret").getD (.arr []) with
    | .arr plain, .arr secret => match Json.strings plain, Json.strings secret with
      | some plain, some secret => pure (slug, ⟨plain, secret⟩)
      | _, _ => throw s!"Runtime release for {slug} has invalid configuration keys."
    | _, _ => throw s!"Runtime release for {slug} has invalid configuration keys."
  | _, _ => throw "The immutable runtime release has an invalid module contract."

/-- The rules of the modules, in order. -/
def profileRulesAux : List (String × ProfileRules) → List Json →
    Except String (List (String × ProfileRules))
  | rules, [] => pure rules
  | rules, raw :: rest => do
    let r ← profileRule rules raw
    profileRulesAux (rules ++ [r]) rest

def runtimeProfileRules (manifest : Json) : Except String (List (String × ProfileRules)) :=
  match manifest.get? "modules" with
  | some (.arr modules) => profileRulesAux [] modules
  | _ => throw "The immutable runtime release has an invalid module contract."

/-- `RUNTIME_SECRET_KEY_PATTERN.search`. A key that gets here is written in capitals, so that
ignoring the case makes no difference. -/
def looksSensitive (key : String) : Bool :=
  ["PASSWORD", "PASSWD", "TOKEN", "SECRET", "PRIVATE", "CREDENTIAL", "API_KEY",
    "ACCESS_KEY"].any fun w => key.toList.tails.any (w.toList.isPrefixOf ·)

def joinSorted (names : List String) : String :=
  ", ".intercalate (names.dedup.insertionSort (· ≤ ·))

/-- The name of a group of values in messages. -/
def valuesLabel (secret : Bool) : String := if secret then "Secret references" else "Configuration"

/-- The values of one module: the total size so far goes in and comes out. -/
def moduleValues (secret : Bool) (slug : String) (allowed : List String) :
    ℕ → List (String × Json) → Except String (ℕ × List (String × String))
  | total, [] => pure (total, [])
  | total, (key, raw) :: rest => do
    ensure (isEnvKey key && allowed.contains key)
      s!"{key} is not allowed by the runtime profile for {slug}."
    match raw with
    | .str value => do
      if secret then
        ensure (isSecretName value) s!"{key} must reference one canonical logical secret name."
      else ensure (!looksSensitive key) s!"{key} looks sensitive and must use secret_refs."
      ensure (value.length ≤ 2048) s!"{key} is too long."
      let label := valuesLabel secret
      ensure (total + (key.length + value.length) ≤ 16384) s!"{label} is limited to 16 KiB."
      let more ← moduleValues secret slug allowed (total + (key.length + value.length)) rest
      pure (more.1, (key, value) :: more.2)
    | _ => throw s!"{key} must contain a string."

def allValues (secret : Bool) (rules : List (String × ProfileRules)) :
    ℕ → List (String × Json) → Except String ComponentValues
  | _, [] => pure []
  | total, (slug, raw) :: rest => do
    let label := valuesLabel secret
    match raw, rules.lookup slug with
    | .obj kvs, some rule => do
      ensure (kvs.length ≤ 50) s!"{label} for {slug} must be an object with at most 50 entries."
      let m ← moduleValues secret slug (if secret then rule.secret else rule.plain) total kvs
      let more ← allValues secret rules m.1 rest
      pure ((slug, m.2) :: more)
    | _, _ => throw s!"{label} for {slug} must be an object with at most 50 entries."

def validateComponentValues (secret : Bool) (value manifest : Json) :
    Except String ComponentValues := do
  let label := valuesLabel secret
  match value with
  | .obj kvs => do
    let rules ← runtimeProfileRules manifest
    let unknown := (kvs.map Prod.fst).filter fun k => !(rules.map Prod.fst).contains k
    let names := joinSorted unknown
    ensure unknown.isEmpty s!"{label} contains modules outside the application: {names}"
    allValues secret rules 0 kvs
  | _ => throw s!"{label} must be keyed by module slug."

def validateRuntimeConfiguration (value manifest : Json) : Except String ComponentValues :=
  validateComponentValues false value manifest

def validateRuntimeSecretReferences (value manifest : Json) (env : RuntimeEnvironment) :
    Except String ComponentValues := do
  let normalized ← validateComponentValues true value manifest
  match policySecretRefs env.policy with
  | none => throw "The runtime environment has an invalid secret-reference policy."
  | some allowed => do
    let references := normalized.flatMap fun c => c.2.map Prod.snd
    let unknown := references.filter fun r => !allowed.contains r
    let names := joinSorted unknown
    ensure unknown.isEmpty s!"Secret references are not allowed in this environment: {names}"
    pure normalized

/-! ### Scaling -/

/-- The bounds of one group of scaling capabilities, when they are integers. -/
def replicaLimits (group : Json) : Option (ℤ × ℤ) :=
  match group.get? "min_replicas", group.get? "max_replicas" with
  | some (.int lo), some (.int hi) => some (lo, hi)
  | _, _ => none

def scalingPolicy (capabilities : Json) (slug : String) (raw : Json) :
    Except String ScalingPolicy := do
  ensure raw.isObj s!"Scaling for {slug} must be an object."
  if (raw.get? "mode").any (·.eqStr "fixed") then do
    ensure (raw.within ["mode", "replicas"])
      s!"Scaling for {slug} contains unsupported fixed-mode fields."
    match raw.get? "replicas" with
    | some (.int replicas) => do
      ensure (1 ≤ replicas && replicas ≤ 50)
        s!"Fixed replicas for {slug} must be between 1 and 50."
      ensure (((capabilities.get? "fixed").bind replicaLimits).any fun l =>
          l.1 ≤ replicas && replicas ≤ l.2)
        s!"Fixed scaling for {slug} exceeds the environment limits."
      pure (.fixed replicas.toNat)
    | _ => throw s!"Fixed replicas for {slug} must be between 1 and 50."
  else if (raw.get? "mode").any (·.eqStr "autoscale") then do
    ensure (raw.within ["mode", "min_replicas", "max_replicas", "target_cpu_utilization"])
      s!"Scaling for {slug} contains unsupported autoscale fields."
    match raw.get? "min_replicas", raw.get? "max_replicas",
      (raw.get? "target_cpu_utilization").getD (.int 70) with
    | some (.int minimum), some (.int maximum), .int target => do
      ensure (1 ≤ minimum && minimum ≤ maximum && maximum ≤ 50 && 10 ≤ target && target ≤ 90)
        s!"Autoscaling for {slug} must use 1-50 replicas and a 10-90 CPU target."
      let autoscaling := (capabilities.get? "autoscaling").getD .null
      ensure (Json.isTrue (autoscaling.get? "enabled") &&
          (replicaLimits autoscaling).any fun l => l.1 ≤ minimum && maximum ≤ l.2)
        s!"Autoscaling for {slug} is unavailable or exceeds the environment limits."
      pure (.autoscale minimum.toNat maximum.toNat target.toNat)
    | _, _, _ => throw s!"Autoscaling values for {slug} must be integers."
  else throw s!"Scaling mode for {slug} must be fixed or autoscale."

/-- The module slugs of a manifest, which must be different non-empty strings. -/
def manifestSlugs (manifest : Json) : Option (List String) :=
  match manifest.get? "modules" with
  | some (.arr modules) =>
    let slugs := modules.filterMap fun m => match m.get? "slug" with
      | some (.str s) => if s = "" then none else some s
      | _ => none
    if slugs.dedup.length = modules.length then some slugs.dedup else none
  | _ => none

/-- The policies of the modules, in order; a module without one runs a single replica. -/
def scalingPolicies (capabilities : Json) (value : Json) : List String → Except String Scaling
  | [] => pure []
  | slug :: rest => do
    let policy ← scalingPolicy capabilities slug
      ((value.get? slug).getD (.obj [("mode", .str "fixed"), ("replicas", .int 1)]))
    let more ← scalingPolicies capabilities value rest
    pure ((slug, policy) :: more)

def validateRuntimeScaling (value manifest : Json) (env : RuntimeEnvironment) :
    Except String Scaling := do
  ensure value.isObj "Scaling must be a JSON object keyed by module slug."
  match manifestSlugs manifest with
  | none => throw "The immutable runtime release has an invalid module contract."
  | some slugs => do
    let unknown := value.keys.filter fun k => !slugs.contains k
    let names := joinSorted unknown
    ensure unknown.isEmpty s!"Scaling contains modules outside the application: {names}"
    match env.capabilities.get? "scaling" with
    | some (.obj kvs) => scalingPolicies (.obj kvs) value (slugs.insertionSort (· ≤ ·))
    | _ => throw "The runtime environment has an invalid scaling contract."

/-! ### Versions -/

/-- `[0-9A-Za-z.-]+` behind a `-` or a `+`, or nothing. -/
def isVersionSuffix : List Char → Bool
  | [] => true
  | c :: cs =>
    (c == '-' || c == '+') && !cs.isEmpty && cs.all fun x => alphaDigit x || x == '.' || x == '-'

/-- `SEMVER_PATTERN`: `v?\d+\.\d+\.\d+(?:[-+][0-9A-Za-z.-]+)?`. -/
def isSemver (s : String) : Bool :=
  let cs := match s.toList with
    | 'v' :: cs => cs
    | cs => cs
  match cs.dropWhile decimalDigit with
  | '.' :: ds => match ds.dropWhile decimalDigit with
    | '.' :: es =>
      cs.head?.any decimalDigit && ds.head?.any decimalDigit && es.head?.any decimalDigit &&
        isVersionSuffix (es.dropWhile decimalDigit)
    | _ => false
  | _ => false

/-! ### Representations -/

/-- `RuntimeComponentSerializer`. -/
structure ComponentRepresentation where
  moduleId : ℕ
  slug : String
  imageDigest : String
  desiredReplicas : ℕ
  readyReplicas : ℕ
  availableReplicas : ℕ
  state : String
  health : String
  restartCount : ℕ
  lastError : Option String
  deriving DecidableEq

def errorOrNone (s : String) : Option String := if s = "" then none else some s

def RuntimeComponent.representation (c : RuntimeComponent) : ComponentRepresentation :=
  ⟨c.moduleId, c.slug, c.imageDigest, c.desiredReplicas, c.readyReplicas, c.availableReplicas,
    c.state, c.health, c.restartCount, errorOrNone c.lastError⟩

/-- `RuntimeDeploymentSerializer`. -/
structure DeploymentRepresentation where
  id : Uuid
  applicationId : ℕ
  applicationName : Option String
  applicationSlug : Option String
  environment : String
  version : Option String
  desiredState : DesiredState
  observedState : ObservedState
  scaling : Scaling
  configuration : ComponentValues
  secretRefs : ComponentValues
  components : List ComponentRepresentation
  lastError : Option String
  lastReconciledAt : Option Time
  revision : ℕ
  createdAt : Time
  updatedAt : Time
  deriving DecidableEq

def RuntimeDeployment.orderedComponents (d : RuntimeDeployment) : List RuntimeComponent :=
  d.components.insertionSort fun a b => a.slug ≤ b.slug

def Database.releaseVersion (db : Database) (release : ℕ) : Option String := do
  let r ← db.releases.lookup release
  let v ← db.versions.lookup r.applicationVersion
  pure v.version

/-- The representation of deployment `k`. -/
def Database.representation (db : Database) (k : Uuid) (d : RuntimeDeployment) :
    DeploymentRepresentation :=
  { id := k
    applicationId := d.application
    applicationName := (db.applications.lookup d.application).map HostedApplication.name
    applicationSlug := (db.applications.lookup d.application).map HostedApplication.slug
    environment := d.environment
    version := db.releaseVersion d.release
    desiredState := d.desiredState
    observedState := d.observedState
    scaling := d.scaling
    configuration := d.configuration
    secretRefs := d.secretRefs
    components := d.orderedComponents.map RuntimeComponent.representation
    lastError := errorOrNone d.lastError
    lastReconciledAt := d.lastReconciledAt
    revision := d.revision
    createdAt := d.createdAt
    updatedAt := d.updatedAt }

/-- A captured log as the cache holds it. -/
structure LogEntry where
  component : String
  container : String := "main"
  content : String
  truncated : Bool
  lineCount : ℕ
  capturedAt : Time
  expiresAt : Time
  deriving DecidableEq

/-- The cache entries `dealhost:runtime-log:<operation id>`, each with the instant its timeout
ends. -/
abbrev Cache := Table Uuid (LogEntry × Time)

/-- `cache.get(f"dealhost:runtime-log:{id}")` at an instant. -/
def Cache.get? (cache : Cache) (now : Time) (id : Uuid) : Option LogEntry :=
  (cache.lookup id).bind fun e => if now < e.2 then some e.1 else none

/-- `RuntimeOperationSerializer.get_result`. -/
def getResult (cache : Cache) (now : Time) (id : Uuid) (o : RuntimeOperation) :
    Option (LogEntry ⊕ Result) :=
  if o.isLog then (cache.get? now id).map Sum.inl else o.result.map Sum.inr

end ArchiDeal.Hosting
