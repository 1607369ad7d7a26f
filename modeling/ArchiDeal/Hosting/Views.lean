import ArchiDeal.Hosting.Serializers

/-!
# The runtime endpoints

`apps/hosting/runtime_views.py`: `create`, `partial_update`, `destroy`, `actions` and
`log_requests` of `RuntimeDeploymentViewSet`. A request runs in four parts, between which other
transactions may commit:

* `prepare`: what precedes `transaction.atomic()`: loading, validation, the request hash, the
  first look for a replay;
* `lockedReplay`: the row lock is taken and the replay looked for again;
* `transact`: the rest of the atomic block;
* `respond`: the response of an accepted request, built after the commit.

A response returned from inside the block commits what was saved before it (`Outcome.returned`); an
exception that leaves the block rolls everything back (`Outcome.raised`).
-/

namespace ArchiDeal.Hosting

open Text

/-! ### Requests and responses -/

/-- What the server is configured with. -/
structure Settings where
  runtimeEnabled : Bool
  engine : Engine
  deriving DecidableEq

/-- The query parameters that `get_queryset` reads. -/
structure Query where
  applicationId : Option String := none
  environment : Option String := none
  observedState : Option String := none
  active : Option String := none
  deriving DecidableEq

/-- The fields of `RuntimeDeploymentCreateSerializer`. -/
structure CreateBody where
  applicationId : ℕ
  environment : String
  version : Option String := none
  scaling : Json := .obj []
  configuration : Json := .obj []
  secretRefs : Json := .obj []
  deriving DecidableEq

/-- The fields of `RuntimeDeploymentUpdateSerializer` that were sent. -/
structure UpdateBody where
  scaling : Option Json := none
  configuration : Option Json := none
  secretRefs : Option Json := none
  deriving DecidableEq

/-- The choices of `RuntimeActionSerializer.action`. -/
inductive ActionName
  | start
  | stop
  | restart
  | scale
  deriving DecidableEq

def ActionName.value : ActionName → String
  | .start => "start"
  | .stop => "stop"
  | .restart => "restart"
  | .scale => "scale"

def ActionName.operationType : ActionName → OperationType
  | .start => .start
  | .stop => .stop
  | .restart => .restart
  | .scale => .scale

/-- The fields of `RuntimeActionSerializer`. -/
structure ActionBody where
  action : ActionName
  component : Option String := none
  replicas : Option ℕ := none
  deriving DecidableEq

/-- The fields of `RuntimeLogRequestSerializer`. -/
structure LogBody where
  component : String
  tailLines : ℕ
  sinceSeconds : ℕ
  deriving DecidableEq

abbrev FieldErrors := List (String × String)

/-- The five mutating endpoints. The framework parses the fields of a body or finds errors in them;
a key is `none` when the path does not hold a UUID. -/
inductive Endpoint
  | create (body : Except FieldErrors CreateBody)
  | partialUpdate (pk : Option Uuid) (body : Except FieldErrors UpdateBody)
  | destroy (pk : Option Uuid)
  | actions (pk : Option Uuid) (body : Except FieldErrors ActionBody)
  | logRequests (pk : Option Uuid) (body : Except FieldErrors LogBody)
  deriving DecidableEq

/-- A request of an administrator; `actor` and `actorLabel` are what `_actor` finds. -/
structure Request where
  endpoint : Endpoint
  query : Query := {}
  idempotencyKey : Option String
  ifMatch : Option String
  actor : Option ℕ := none
  actorLabel : String := ""
  deriving DecidableEq

inductive Response
  | problem (detail code : String) (status : ℕ) (etag : Option ℕ := none)
  | invalid (errors : FieldErrors)
  | notFound
  | serverError
  | mutation (status : ℕ) (deployment : DeploymentRepresentation) (id : Uuid)
      (operation : RuntimeOperation) (replay : Bool)
  | operation (status : ℕ) (id : Uuid) (operation : RuntimeOperation) (replay : Bool)
  deriving DecidableEq

/-- How a part of a handler refuses a request. -/
inductive Refusal
  /-- A response is returned: what an atomic block saved before it is committed. -/
  | returned (r : Response)
  /-- An exception is raised: an atomic block around it is rolled back. -/
  | raised (r : Response)
  deriving DecidableEq

/-- The response that the client gets. -/
def Refusal.response : Refusal → Response
  | .returned r | .raised r => r

/-- Outside an atomic block only the response matters. -/
def answering {α : Type} : Except Refusal α → Except Response α
  | .ok a => .ok a
  | .error e => .error e.response

def Response.status : Response → ℕ
  | .problem _ _ status _ => status
  | .invalid _ => 400
  | .notFound => 404
  | .serverError => 500
  | .mutation status _ _ _ _ => status
  | .operation status _ _ _ => status

/-! ### Loading -/

/-- The filters that the query parameters ask for. -/
structure Filters where
  application : Option ℕ
  environment : Option String
  observedState : Option ObservedState
  active : Option Bool

/-- The rows that pass the filters. -/
def Filters.keeps (f : Filters) (d : RuntimeDeployment) : Bool :=
  f.application.all (· == d.application) && f.environment.all (· == d.environment) &&
    f.observedState.all (· == d.observedState) && f.active.all (· == d.deletedAt.isNone)

/-- A query parameter that is present and not empty. -/
def given (value : Option String) : Option String := value.filter (· != "")

def applicationFilter (value : Option String) : Except Response (Option ℕ) :=
  match given value with
  | none => .ok none
  | some s =>
    if positiveNumeral s.toList then match toInt s.toList with
      | some n => .ok (some n)
      | none => .error .serverError
    else .error (.invalid [("application_id", "A positive application identifier is required.")])

def observedStateFilter (value : Option String) : Except Response (Option ObservedState) :=
  match given value with
  | none => .ok none
  | some s => match ObservedState.ofValue? s with
    | some state => .ok (some state)
    | none => .error (.invalid [("observed_state", "The observed runtime state is invalid.")])

def activeFilter : Option String → Except Response (Option Bool)
  | none => .ok none
  | some s =>
    if s = "true" then .ok (some true)
    else if s = "false" then .ok (some false)
    else .error (.invalid [("active", "Active must be the literal true or false.")])

def queryset (q : Query) : Except Response Filters := do
  let application ← applicationFilter q.applicationId
  let observedState ← observedStateFilter q.observedState
  let active ← activeFilter q.active
  pure ⟨application, given q.environment, observedState, active⟩

def getObject (db : Database) (q : Query) (pk : Option Uuid) :
    Except Response (Uuid × RuntimeDeployment) := do
  let filters ← queryset q
  match pk with
  | none => throw .notFound
  | some k => match db.deployments.lookup k with
    | some d => if filters.keeps d then pure (k, d) else throw .notFound
    | none => throw .notFound

/-- `_fresh`; a deployment outside the queryset is a `DoesNotExist` that nothing catches. -/
def fresh (db : Database) (q : Query) (k : Uuid) : Except Response RuntimeDeployment := do
  let filters ← queryset q
  match db.deployments.lookup k with
  | some d => if filters.keeps d then pure d else throw .serverError
  | none => throw .serverError

/-! ### Replays and preconditions -/

/-- `IDEMPOTENCY_KEY_PATTERN`: `[A-Za-z0-9][A-Za-z0-9._:-]{7,127}`. -/
def isIdempotencyKey (s : String) : Bool :=
  headed alphaDigit (fun c => alphaDigit c || c == '.' || c == '_' || c == ':' || c == '-') 7 127
    s.toList

def Request.key (req : Request) : Option String :=
  req.idempotencyKey.bind fun value => if value = "" then none else some (strip value)

def requestHash (scope : String) (payload : Json) : String :=
  sha256Json (.obj [("scope", .str scope), ("payload", payload)])

/-- The operation that carries a key. -/
def Database.keyHolder (db : Database) (key : String) : Option (Uuid × RuntimeOperation) :=
  db.operations.find fun _ o => o.idempotencyKey == key

def idempotencyReplay (db : Database) (req : Request) (hash : String) :
    Except Response (Option (Uuid × RuntimeOperation)) :=
  match req.key with
  | none =>
    throw (.problem "Idempotency-Key is required for runtime mutations."
      "idempotency_key_required" 428)
  | some key => do
    ensure (isIdempotencyKey key)
      (.problem "Idempotency-Key must contain 8-128 safe characters." "invalid_idempotency_key" 400)
    match db.keyHolder key with
    | none => pure none
    | some (i, o) => do
      ensure (o.requestHash == hash)
        (.problem "The idempotency key was already used for a different request."
          "idempotency_conflict" 409)
      pure (some (i, o))

/-- `_replay` (`log = false`) and `_replay_operation` (`log = true`): the response, unless the
request is a new one. -/
def replay (db : Database) (req : Request) (hash : String) (log : Bool) : Option Response :=
  match idempotencyReplay db req hash with
  | .error r => some r
  | .ok none => none
  | .ok (some (i, o)) =>
    if log then some (.operation 200 i o true)
    else match fresh db req.query o.deployment with
      | .ok d => some (.mutation 200 (db.representation o.deployment d) i o true)
      | .error r => some r

/-- The revision that an `If-Match` header names: the pattern `"([1-9][0-9]*)"`. -/
def etagRevision (value : String) : Option (List Char) :=
  match (strip value).toList with
  | '"' :: cs =>
    if cs.getLast? = some '"' ∧ positiveNumeral cs.dropLast then some cs.dropLast else none
  | _ => none

/-- `_revision_precondition`; a number of more than 4300 digits is a `ValueError`. -/
def revisionPrecondition (req : Request) (revision : ℕ) (resource : String) :
    Except Refusal Unit :=
  match req.ifMatch with
  | none =>
    throw (.returned (.problem s!"If-Match is required for runtime {resource} mutations."
      "precondition_required" 428))
  | some value => match etagRevision value with
    | none =>
      throw (.returned (.problem "If-Match must contain a strong revision ETag such as \"3\"."
        "invalid_precondition" 400))
    | some digits => match toInt digits with
      | none => throw (.raised .serverError)
      | some n =>
        ensure (n == revision)
          (.returned (.problem s!"The runtime {resource} changed after it was loaded."
            "stale_revision" 412 (some revision)))

def runtimeUnavailable (settings : Settings) : Except Response Unit :=
  ensure settings.runtimeEnabled
    (.problem "Runtime operations require an isolated controller configuration."
      "runtime_backend_unavailable" 503)

/-! ### Before the transaction -/

structure UpdateFields where
  scaling : Option Scaling := none
  configuration : Option ComponentValues := none
  secretRefs : Option ComponentValues := none
  deriving DecidableEq

/-- A request whose transaction is about to start. -/
inductive Job
  | create (body : CreateBody) (version : String) (env : RuntimeEnvironment)
  | update (k : Uuid) (fields : UpdateFields)
  | destroy (k : Uuid)
  | action (k : Uuid) (body : ActionBody)
  | logs (k : Uuid) (body : LogBody)
  deriving DecidableEq

def Job.isLogs : Job → Bool
  | .logs _ _ => true
  | _ => false

/-- The related rows of `RuntimeDeploymentCreateSerializer`. -/
def relatedRows (db : Database) (body : CreateBody) :
    Except Response (HostedApplication × RuntimeEnvironment) :=
  let id := body.applicationId
  let slug := body.environment
  match db.applications.lookup id,
    (db.environments.lookup slug).filter RuntimeEnvironment.enabled with
  | some app, some env => pure (app, env)
  | app, env =>
    throw (.invalid (
      (if app.isNone then [("application_id", s!"Invalid pk \"{id}\" - object does not exist.")]
        else []) ++
      (if env.isNone then [("environment", s!"Object with slug={slug} does not exist.")] else [])))

/-- `RuntimeDeploymentCreateSerializer`: the application, the version and the environment. -/
def validateCreate (db : Database) (body : CreateBody) :
    Except Response (HostedApplication × String × RuntimeEnvironment) := do
  let (app, env) ← relatedRows db body
  ensure app.enabled (.invalid [("application_id", "Disabled applications cannot be deployed.")])
  let version := strip ((given body.version).getD app.currentVersion)
  ensure (isSemver version) (.invalid [("version", "A semantic version is required.")])
  ensure (db.versions.any fun _ v => v.application == body.applicationId && v.version == version)
    (.invalid [("version", "Only published application versions can be deployed.")])
  pure (app, version, env)

def CreateBody.normalized (body : CreateBody) (version : String) : Json :=
  .obj [("application_id", .int body.applicationId), ("environment", .str body.environment),
    ("version", .str version), ("configuration", body.configuration),
    ("secret_refs", body.secretRefs), ("scaling", body.scaling)]

/-- Validate a field that was sent: its value, or its error. -/
def validateField {α : Type} (field : String) (validate : Json → Except String α) :
    Option Json → Option α × FieldErrors
  | none => (none, [])
  | some raw => match validate raw with
    | .ok a => (some a, [])
    | .error e => (none, [(field, e)])

/-- `RuntimeDeploymentUpdateSerializer`: the errors of all fields are collected. -/
def validateUpdate (db : Database) (d : RuntimeDeployment) (body : UpdateBody) :
    Except Response UpdateFields :=
  match db.releases.lookup d.release, db.environments.lookup d.environment with
  | some release, some env => do
    let scaling :=
      validateField "scaling" (validateRuntimeScaling · release.manifest env) body.scaling
    let configuration :=
      validateField "configuration" (validateRuntimeConfiguration · release.manifest)
        body.configuration
    let secretRefs :=
      validateField "secret_refs" (validateRuntimeSecretReferences · release.manifest env)
        body.secretRefs
    let errors := scaling.2 ++ configuration.2 ++ secretRefs.2
    ensure errors.isEmpty (.invalid errors)
    ensure (scaling.1.isSome || configuration.1.isSome || secretRefs.1.isSome)
      (.invalid [("non_field_errors", "At least one runtime field is required.")])
    pure ⟨scaling.1, configuration.1, secretRefs.1⟩
  | _, _ => throw .serverError

/-- `serializer.validated_data` of an update. -/
def UpdateFields.toJson (f : UpdateFields) : Json :=
  .obj ((f.scaling.map fun v => ("scaling", Scaling.toJson v)).toList ++
    (f.configuration.map fun v => ("configuration", ComponentValues.toJson v)).toList ++
    (f.secretRefs.map fun v => ("secret_refs", ComponentValues.toJson v)).toList)

/-- `sorted(serializer.validated_data)`. -/
def UpdateFields.names (f : UpdateFields) : List String :=
  (if f.configuration.isSome then ["configuration"] else []) ++
    (if f.scaling.isSome then ["scaling"] else []) ++
    (if f.secretRefs.isSome then ["secret_refs"] else [])

def validateAction (body : ActionBody) : Except Response Unit :=
  if body.action = .scale then
    ensure (body.component.isSome && body.replicas.isSome)
      (.invalid [("non_field_errors", "Scale requires a component and replicas.")])
  else
    ensure (body.component.isNone && body.replicas.isNone)
      (.invalid [("non_field_errors", "Component and replicas are accepted only for scale.")])

/-- `serializer.validated_data` of an action. -/
def ActionBody.toJson (body : ActionBody) : Json :=
  .obj (("action", .str body.action.value) ::
    ((body.component.map fun c => ("component", Json.str c)).toList ++
      (body.replicas.map fun n => ("replicas", Json.int n)).toList))

/-- `serializer.validated_data` of a log request. -/
def LogBody.toJson (body : LogBody) : Json :=
  .obj [("component", .str body.component), ("tail_lines", .int body.tailLines),
    ("since_seconds", .int body.sinceSeconds)]

/-- The parsed body, or a refusal with the errors of the framework. -/
def parsed {α : Type} : Except FieldErrors α → Except Response α
  | .ok a => .ok a
  | .error errors => .error (.invalid errors)

/-- The part of a handler that validates its request: the job, its request hash and, for a creation,
the revision of the application. -/
def draft (db : Database) (req : Request) : Except Response (Job × String × Option ℕ) :=
  match req.endpoint with
  | .create body => do
    let body ← parsed body
    let (app, version, env) ← validateCreate db body
    pure (.create body version env, requestHash "create" (body.normalized version),
      some app.revision)
  | .partialUpdate pk body => do
    let (k, d) ← getObject db req.query pk
    let body ← parsed body
    let fields ← validateUpdate db d body
    pure (.update k fields, requestHash ("configure:" ++ uuidStr k) fields.toJson, none)
  | .destroy pk => do
    let (k, _) ← getObject db req.query pk
    pure (.destroy k, requestHash ("undeploy:" ++ uuidStr k) (.obj []), none)
  | .actions pk body => do
    let (k, _) ← getObject db req.query pk
    let body ← parsed body
    validateAction body
    pure (.action k body, requestHash ("action:" ++ uuidStr k) body.toJson, none)
  | .logRequests pk body => do
    let (k, _) ← getObject db req.query pk
    let body ← parsed body
    pure (.logs k body, requestHash ("logs:" ++ uuidStr k) body.toJson, none)

def answerReplay (db : Database) (req : Request) (hash : String) (log : Bool) :
    Except Response Unit :=
  match replay db req hash log with
  | some r => .error r
  | none => .ok ()

/-- `_application_precondition` before the transaction of a creation. -/
def applicationPrecondition (req : Request) : Option ℕ → Except Response Unit
  | some revision => answering (revisionPrecondition req revision "application")
  | none => .ok ()

/-- What every handler does with its hash before the transaction: answer a replay, refuse when the
runtime is off. A creation also compares the revision of the application. -/
def admission (settings : Settings) (db : Database) (req : Request) (hash : String) (log : Bool)
    (revision : Option ℕ) : Except Response Unit := do
  answerReplay db req hash log
  runtimeUnavailable settings
  applicationPrecondition req revision

/-- The part of a handler before `transaction.atomic()`: the job and its request hash. -/
def prepare (settings : Settings) (db : Database) (req : Request) :
    Except Response (Job × String) := do
  let (job, hash, revision) ← draft db req
  admission settings db req hash job.isLogs revision
  pure (job, hash)

/-- The second look for a replay, under the lock. -/
def lockedReplay (db : Database) (req : Request) (job : Job) (hash : String) : Option Response :=
  replay db req hash job.isLogs

/-! ### Inside the transaction -/

def idempotencyConflict : Response :=
  .problem "The idempotency key was claimed by a concurrent runtime request."
    "idempotency_conflict" 409

/-- Would a new row break the unique key or the unique active log of a deployment? -/
def Database.operationConflict (db : Database) (o : RuntimeOperation) : Bool :=
  (db.operations.any fun _ p => p.idempotencyKey == o.idempotencyKey) ||
    (o.captures && db.hasOperation o.deployment RuntimeOperation.captures)

/-- The row that `_create_operation` inserts for deployment `k`. -/
def newOperation (req : Request) (k : Uuid) (d : RuntimeDeployment) (type : OperationType)
    (hash : String) (payload : Payload) (now : Time) : RuntimeOperation :=
  { deployment := k
    operationType := type
    payload := if type = .logSnapshot then payload
      else { payload with desiredState := some d.desiredState }
    idempotencyKey := req.key.getD ""
    requestHash := hash
    targetGeneration := d.generation
    actor := req.actor
    actorLabel := req.actorLabel
    requestedAt := now }

/-- `_create_operation`: a broken constraint undoes the caller's transaction. -/
def createOperation (db : Database) (id : Uuid) (o : RuntimeOperation) :
    Except Refusal Database := do
  ensure (!db.operationConflict o) (.raised idempotencyConflict)
  pure (db.saveOperation id o)

def lockedDeployment (db : Database) (k : Uuid) :
    Except Refusal (RuntimeDeployment × RuntimeEnvironment) :=
  match db.deployments.lookup k with
  | none => throw (.raised .serverError)
  | some d => match db.environments.lookup d.environment with
    | none => throw (.raised .serverError)
    | some env => pure (d, env)

def environmentUnavailable (env : RuntimeEnvironment) : Except Refusal Unit :=
  ensure env.enabled
    (.returned (.problem "The runtime environment is disabled for operational requests."
      "runtime_environment_disabled" 409))

def busyResponse (db : Database) (k : Uuid) : Except Refusal Unit :=
  ensure (!db.hasOperation k RuntimeOperation.mutates)
    (.returned (.problem "Another runtime operation is already in progress."
      "operation_in_progress" 409))

/-- The number of replicas a policy starts with. -/
def ScalingPolicy.desired : ScalingPolicy → ℕ
  | .fixed replicas => replicas
  | .autoscale minReplicas _ _ => minReplicas

def createComponents (manifest : Json) (scaling : Scaling) : Option (List RuntimeComponent) :=
  match manifest.get? "modules" with
  | some (.arr modules) => modules.mapM fun m => do
    match m.get? "slug", m.get? "module_id", m.get? "image" with
    | some (.str slug), some (.int id), some (.str image) => do
      let policy ← scaling.lookup slug
      pure {
        moduleId := id.toNat
        slug := slug
        imageDigest := image
        desiredReplicas := policy.desired }
    | _, _, _ => none
  | _ => none

def syncComponentScaling (d : RuntimeDeployment) : Option RuntimeDeployment := do
  let components ← d.components.mapM fun c => do
    let policy ← d.scaling.lookup c.slug
    pure { c with desiredReplicas := policy.desired }
  pure { d with components := components }

/-- PostgreSQL cannot store a NUL character in a JSON column. -/
def storable (engine : Engine) (v : ComponentValues) : Bool :=
  engine == .sqlite || v.all fun c => c.2.all fun p => !p.2.toList.any (·.toNat == 0)

/-- What `partial_update`, `destroy` and `actions` have in common: a new generation of the
deployment, in a state that waits for the controller. -/
def RuntimeDeployment.requeued (d : RuntimeDeployment) (state : ObservedState) (now : Time) :
    RuntimeDeployment :=
  { d with
    observedState := state
    generation := d.generation + 1
    revision := d.revision + 1
    lastError := ""
    updatedAt := now }

/-- `setattr` of the validated fields. -/
def UpdateFields.apply (fields : UpdateFields) (d : RuntimeDeployment) : RuntimeDeployment :=
  { d with
    scaling := fields.scaling.getD d.scaling
    configuration := fields.configuration.getD d.configuration
    secretRefs := fields.secretRefs.getD d.secretRefs }

/-- The atomic block of `partial_update`. -/
def updateTx (settings : Settings) (db : Database) (req : Request) (hash : String) (k : Uuid)
    (fields : UpdateFields) (id : Uuid) (now : Time) : Except Refusal Database := do
  let (locked, env) ← lockedDeployment db k
  revisionPrecondition req locked.revision "deployment"
  environmentUnavailable env
  busyResponse db k
  ensure locked.deletedAt.isNone
    (.returned (.problem "A deleted deployment cannot be configured." "deployment_deleted" 409))
  ensure (locked.desiredState != .absent)
    (.returned (.problem "A deployment pending removal cannot be configured."
      "deployment_deleting" 409))
  let locked := (fields.apply locked).requeued .reconciling now
  ensure (storable settings.engine locked.configuration) (.raised .serverError)
  match syncComponentScaling locked with
  | none => throw (.raised .serverError)
  | some locked =>
    createOperation (db.saveDeployment k locked) id
      (newOperation req k locked (if locked.controllerId ≠ "" then .configure else .deploy) hash
        { changedFields := some fields.names } now)

/-- The atomic block of `destroy`. -/
def destroyTx (db : Database) (req : Request) (hash : String) (k : Uuid) (id : Uuid) (now : Time) :
    Except Refusal Database := do
  let (locked, _) ← lockedDeployment db k
  revisionPrecondition req locked.revision "deployment"
  busyResponse db k
  ensure locked.deletedAt.isNone
    (.returned (.problem "The deployment is already deleted." "deployment_deleted" 409))
  let locked := { locked with desiredState := .absent }.requeued .deleting now
  createOperation (db.saveDeployment k locked) id (newOperation req k locked .undeploy hash {} now)

def validateActionCapability (env : RuntimeEnvironment) (action : ActionName) :
    Except Refusal Unit :=
  let supported := match action with
    | .start | .stop => Json.isTrue (env.capabilities.get? "start_stop")
    | .restart => Json.isTrue (env.capabilities.get? "restart")
    | .scale => ((env.capabilities.get? "scaling").bind (·.get? "fixed")).any Json.isObj
  let name := action.value
  ensure supported
    (.returned (.problem s!"Action {name} is not supported by this environment."
      "runtime_capability_unavailable" 409))

def allowedStates : ActionName → List ObservedState
  | .start => [.stopped, .failed, .unknown]
  | .stop => [.running, .degraded, .failed, .unknown]
  | .restart => [.running, .degraded]
  | .scale => [.running, .degraded, .stopped]

def validateTransition (d : RuntimeDeployment) (action : ActionName) : Except Refusal Unit := do
  ensure d.deletedAt.isNone
    (.returned (.problem "A deleted deployment cannot accept runtime actions."
      "deployment_deleted" 409))
  let name := action.value
  let state := d.observedState.value
  ensure ((allowedStates action).contains d.observedState)
    (.returned (.problem s!"Action {name} is not valid while the deployment is {state}."
      "invalid_runtime_transition" 409))

/-- `scaling[slug] = policy` on a copy of the stored mapping. -/
def Scaling.set (v : Scaling) (slug : String) (policy : ScalingPolicy) : Scaling :=
  if (v.map Prod.fst).contains slug then v.map fun e => if e.1 = slug then (slug, policy) else e
  else v ++ [(slug, policy)]

/-- A `ValidationError` that the handler answers itself, without the name of a field. -/
def invalidValue {α : Type} : Except String α → Except Refusal α
  | .ok a => .ok a
  | .error e => .error (.returned (.invalid [("", e)]))

/-- The row of the scaled component. -/
def scaleComponent (slug : String) (replicas : ℕ) (c : RuntimeComponent) : RuntimeComponent :=
  if c.slug = slug then { c with desiredReplicas := replicas } else c

/-- What an action changes in the locked deployment, and the payload of its operation. -/
def applyAction (db : Database) (d : RuntimeDeployment) (env : RuntimeEnvironment)
    (body : ActionBody) : Except Refusal (RuntimeDeployment × Payload) :=
  match body.action with
  | .start => pure ({ d with desiredState := .running }, {})
  | .stop => pure ({ d with desiredState := .stopped }, {})
  | .restart => pure (d, {})
  | .scale =>
    match body.component, body.replicas, db.releases.lookup d.release with
    | some slug, some replicas, some release => do
      ensure (d.components.any fun c => c.slug == slug)
        (.returned (.problem "The requested component is not part of the deployment."
          "component_not_found" 400))
      let scaling ← invalidValue (validateRuntimeScaling
        (d.scaling.set slug (.fixed replicas)).toJson release.manifest env)
      pure ({ d with
        scaling := scaling
        components := d.components.map (scaleComponent slug replicas) },
        { component := some slug, replicas := some replicas })
    | _, _, _ => throw (.raised .serverError)

/-- The atomic block of `actions`. -/
def actionTx (db : Database) (req : Request) (hash : String) (k : Uuid) (body : ActionBody)
    (id : Uuid) (now : Time) : Except Refusal Database := do
  let (locked, env) ← lockedDeployment db k
  revisionPrecondition req locked.revision "deployment"
  environmentUnavailable env
  busyResponse db k
  validateActionCapability env body.action
  validateTransition locked body.action
  ensure (locked.controllerId != "" || body.action == .start)
    (.returned (.problem "Retry the deployment before requesting this action."
      "runtime_identity_unavailable" 409))
  let type := if body.action = .start ∧ locked.controllerId = "" then .deploy
    else body.action.operationType
  let (locked, payload) ← applyAction db locked env body
  let locked := locked.requeued .reconciling now
  createOperation (db.saveDeployment k locked) id (newOperation req k locked type hash payload now)

/-- The states in which logs can be captured. -/
def loggableStates : List ObservedState := [.running, .degraded, .stopped, .failed, .unknown]

def checkLogLimits (env : RuntimeEnvironment) (tailLines : ℕ) : Except Refusal Unit :=
  let limits := if env.capabilities.isObj then (env.capabilities.get? "logs").getD (.obj [])
    else .obj []
  if !limits.isObj then
    throw (.returned (.problem "Logs are not supported by this environment."
      "runtime_capability_unavailable" 409))
  else match limits.get? "max_lines" with
    | some (.int maximum) => do
      ensure (1 ≤ maximum && maximum ≤ 1000)
        (.returned (.problem "The runtime environment has an invalid log contract."
          "runtime_environment_invalid" 503))
      ensure ((tailLines : ℤ) ≤ maximum)
        (.returned (.problem "The requested log tail exceeds the environment limit."
          "log_limit_exceeded" 400))
    | _ =>
      throw (.returned (.problem "The runtime environment has an invalid log contract."
        "runtime_environment_invalid" 503))

/-- The atomic block of `log_requests`. -/
def logsTx (db : Database) (req : Request) (hash : String) (k : Uuid) (body : LogBody) (id : Uuid)
    (now : Time) : Except Refusal Database := do
  let (locked, env) ← lockedDeployment db k
  revisionPrecondition req locked.revision "deployment"
  environmentUnavailable env
  ensure (!db.hasOperation k RuntimeOperation.captures)
    (.returned (.problem "Another log snapshot is already in progress for this deployment."
      "log_snapshot_in_progress" 409))
  ensure (locked.controllerId != "")
    (.returned (.problem "Logs are unavailable until the deployment has a runtime identity."
      "runtime_identity_unavailable" 409))
  ensure (loggableStates.contains locked.observedState)
    (.returned (.problem "Logs are unavailable during this runtime transition."
      "invalid_runtime_transition" 409))
  ensure (locked.components.any fun c => c.slug == body.component)
    (.returned (.problem "The requested log component is not part of the deployment."
      "component_not_found" 400))
  checkLogLimits env body.tailLines
  createOperation db id (newOperation req k locked .logSnapshot hash
    { component := some body.component
      tailLines := some body.tailLines
      sinceSeconds := some body.sinceSeconds } now)

/-! ### The creation of a deployment -/

/-- The three validations of `create` against the release. -/
def validateCreateValues (body : CreateBody) (manifest : Json) (env : RuntimeEnvironment) :
    Except Refusal (Scaling × ComponentValues × ComponentValues) := do
  let scaling ← invalidValue (validateRuntimeScaling body.scaling manifest env)
  let configuration ← invalidValue (validateRuntimeConfiguration body.configuration manifest)
  let secretRefs ← invalidValue (validateRuntimeSecretReferences body.secretRefs manifest env)
  pure (scaling, configuration, secretRefs)

/-- The response to an `IntegrityError` of `create`. -/
def runtimeConflict : Response :=
  .problem "The deployment or idempotency key already exists." "runtime_conflict" 409

/-- The row that `create` inserts. -/
def newDeployment (req : Request) (body : CreateBody) (release : ℕ) (scaling : Scaling)
    (configuration secretRefs : ComponentValues) (components : List RuntimeComponent)
    (now : Time) : RuntimeDeployment :=
  { application := body.applicationId
    release := release
    environment := body.environment
    observedState := .pending
    configuration := configuration
    secretRefs := secretRefs
    scaling := scaling
    createdBy := req.actor
    createdByLabel := req.actorLabel
    createdAt := now
    updatedAt := now
    components := components }

/-- The rest of `create`, once it has a release. -/
def insertDeployment (settings : Settings) (db : Database) (req : Request) (hash : String)
    (body : CreateBody) (env : RuntimeEnvironment) (release : ℕ × RuntimeRelease) (k id : Uuid)
    (now : Time) : Except Refusal Database := do
  let (scaling, configuration, secretRefs) ← validateCreateValues body release.2.manifest env
  match createComponents release.2.manifest scaling with
  | none => throw (.raised .serverError)
  | some components => do
    ensure (decide (components.map RuntimeComponent.slug).Nodup) (.raised runtimeConflict)
    ensure (storable settings.engine configuration) (.raised .serverError)
    let deployment :=
      newDeployment req body release.1 scaling configuration secretRefs components now
    createOperation (db.saveDeployment k deployment) id
      (newOperation req k deployment .deploy hash {} now)

/-- What an atomic block does. -/
inductive Outcome
  /-- The request was accepted. -/
  | accepted (db : Database)
  /-- A response was returned: the block commits. -/
  | returned (db : Database) (r : Response)
  /-- An exception left the block. -/
  | raised (r : Response)
  deriving DecidableEq

/-- The outcome of a block whose refusals come before its writes. -/
def Outcome.of (db : Database) : Except Refusal Database → Outcome
  | .ok db' => .accepted db'
  | .error (.returned r) => .returned db r
  | .error (.raised r) => .raised r

/-- The checks of `create` before the release is looked for. -/
def createChecks (db : Database) (req : Request) (body : CreateBody) :
    Except Refusal HostedApplication :=
  match db.applications.lookup body.applicationId with
  | none => throw (.raised .serverError)
  | some app => do
    revisionPrecondition req app.revision "application"
    ensure (!db.deployments.any fun _ d =>
        d.application == body.applicationId && d.environment == body.environment &&
          d.deletedAt.isNone)
      (.returned (.problem
        "This application already has an active deployment in that environment."
        "deployment_exists" 409))
    pure app

/-- The atomic block of `create`; `k` and `id` are the keys of the new rows. -/
def createTx (settings : Settings) (db : Database) (req : Request) (hash : String)
    (body : CreateBody) (version : String) (env : RuntimeEnvironment) (k id : Uuid) (now : Time) :
    Outcome :=
  match createChecks db req body with
  | .error e => .of db (.error e)
  | .ok app =>
    match runtimeReleaseFor settings.engine db body.applicationId app version env with
    | (.error (.notDeployable detail code), db) => .returned db (.problem detail code 409)
    | (.error .integrity, _) => .raised runtimeConflict
    | (.error .other, _) => .raised .serverError
    | (.ok release, db) =>
      .of db (insertDeployment settings db req hash body env release k id now)

/-- The atomic block of a job, after the locked replay. -/
def transact (settings : Settings) (db : Database) (req : Request) (hash : String) (k id : Uuid)
    (now : Time) : Job → Outcome
  | .create body version env => createTx settings db req hash body version env k id now
  | .update k fields => .of db (updateTx settings db req hash k fields id now)
  | .destroy k => .of db (destroyTx db req hash k id now)
  | .action k body => .of db (actionTx db req hash k body id now)
  | .logs k body => .of db (logsTx db req hash k body id now)

/-! ### After the commit -/

/-- The deployment that a job is about; a creation is given the key of its new row. -/
def Job.target (k : Uuid) : Job → Uuid
  | .create _ _ _ => k
  | .update k _ | .destroy k | .action k _ | .logs k _ => k

/-- The response of an accepted request; `d` and `o` are the rows as they were written. `create`
answers with the deployment it holds and reads the components, `log_requests` answers with the
operation, the others load the deployment again through the filtered queryset. -/
def respond (db : Database) (req : Request) (k : Uuid) (d : RuntimeDeployment) (id : Uuid)
    (o : RuntimeOperation) : Job → Response
  | .logs _ _ => .operation 202 id o false
  | .create _ _ _ =>
    let components := (db.deployments.lookup k).elim [] RuntimeDeployment.components
    .mutation 202 (db.representation k { d with components := components }) id o false
  | .update _ _ | .destroy _ | .action _ _ => match fresh db req.query k with
    | .ok d => .mutation 202 (db.representation k d) id o false
    | .error r => r

end ArchiDeal.Hosting
