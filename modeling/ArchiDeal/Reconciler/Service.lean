import ArchiDeal.Reconciler.Resources

/-!
# The reconciler

`runtime_controller_service/service.py`: the runs of `RuntimeReconciler`, as programs that call the
API server. A lost call is the `KubernetesApiError` of the client; nothing catches it. The runs here
are the bodies that hold the Lease of the deployment.
-/

namespace ArchiDeal.Reconciler

open Text Hosting Calls

/-- A run of the reconciler. -/
abbrev Run := Prog Call Call.Reply ControllerError

/-- `kubernetes.get`. -/
def kubeGet (k : Key) : Run (Option Resource) := Prog.invoke (Call.get k)

/-- `kubernetes.list`. -/
def kubeList (namespaceName : String) (kind : Kind) (selector : List (String × String)) :
    Run (List (Key × Resource)) :=
  Prog.invoke (Call.list namespaceName kind selector)

/-- `kubernetes.apply`. -/
def kubeApply (k : Key) (r : Resource) : Run Unit := Prog.invoke (Call.apply k r)

/-- `kubernetes.delete`. -/
def kubeDelete (k : Key) : Run Unit := Prog.invoke (Call.delete k)

variable (settings : ControllerSettings) (py : Json.FloatReader)

/-! ### Results -/

/-- The states of a deployment in a result. -/
inductive RuntimeState
  | running
  | stopped
  | reconciling
  | degraded
  | deleting
  | deleted
  deriving DecidableEq

/-- The health of a component in a result. -/
inductive Health
  | healthy
  | unhealthy
  | progressing
  | pending
  | stopped
  | stopping
  | unknown
  deriving DecidableEq

structure ComponentResult where
  slug : String
  imageDigest : String
  desiredReplicas : ℕ
  readyReplicas : ℕ
  availableReplicas : ℕ
  state : RuntimeState
  health : Health
  restartCount : ℕ
  lastError : String
  deriving DecidableEq

structure RuntimeResult where
  deploymentId : String
  state : RuntimeState
  message : String
  observedGeneration : ℕ
  components : List ComponentResult
  deriving DecidableEq

def componentResult (c : Component) (desiredReplicas ready available : ℕ) (state : RuntimeState)
    (health : Health) (restartCount : ℕ) (error : String) : ComponentResult :=
  ⟨c.slug, c.image, min desiredReplicas 65535, min ready 65535, min available 65535, state, health,
    min restartCount 100000, error⟩

/-- `_deleting_component`, and its sibling in `_deleted_result`. -/
def withdrawnComponent (state : RuntimeState) (c : Component) : ComponentResult :=
  componentResult c 0 0 0 state .unknown 0 ""

def deletedResult (d : DesiredDeployment) : RuntimeResult :=
  ⟨d.deploymentId, .deleted, "", d.generation, d.components.map (withdrawnComponent .deleted)⟩

/-! ### The status of a component -/

def count (value : Option Json) : ℕ :=
  match value with
  | some (.int n) => n.toNat
  | _ => 0

/-- `_deployment_failure`: the message of the first failed condition. -/
def deploymentFailure (status : Json) : String :=
  match status.get? "conditions" with
  | some (.arr conditions) =>
    (conditions.findSome? fun condition =>
      if condition.isObj then
        if (condition.get? "type").any (·.eqStr "ReplicaFailure") &&
            (condition.get? "status").any (·.eqStr "True") then
          some "Kubernetes could not create a runtime replica."
        else if (condition.get? "type").any (·.eqStr "Progressing") &&
            (condition.get? "status").any (·.eqStr "False") then
          some "The runtime rollout did not progress."
        else none
      else none).getD ""
  | _ => ""

/-- The restarts of the `main` containers of the pods of a component. -/
def restartCount (pods : List Resource) : ℕ :=
  (pods.map fun pod =>
    match pod.status.get? "containerStatuses" with
    | some (.arr statuses) =>
      (statuses.map fun status =>
        if (status.get? "name").any (·.eqStr "main") then count (status.get? "restartCount")
        else 0).sum
    | _ => 0).sum

/-- The image that the `Deployment` runs; a template whose specification is not an object raises
an `AttributeError`. -/
def actualImage (c : Component) (spec : Json) : Except ControllerError String :=
  match spec.get? "template" with
  | some (.obj template) =>
    match ((Json.obj template).get? "spec").getD (.obj []) with
    | .obj podSpec =>
      match (Json.obj podSpec).get? "containers" with
      | some (.arr containers) =>
        match containers.find? fun item => (item.get? "name").any (·.eqStr "main") with
        | some main =>
          match main.get? "image" with
          | some (.str image) => .ok image
          | _ => .ok c.image
        | none => .ok c.image
      | _ => .ok c.image
    | _ => .error .unexpected
  | _ => .ok c.image

def componentStatus (d : DesiredDeployment) (c : Component) (deployment : Option Resource)
    (pods : List Resource) : Except ControllerError ComponentResult :=
  match deployment with
  | none => .ok (componentResult c 0 0 0 .reconciling .pending (restartCount pods) "")
  | some deployment => do
    let desiredReplicas := count (deployment.spec.get? "replicas")
    let ready := count (deployment.status.get? "readyReplicas")
    let available := count (deployment.status.get? "availableReplicas")
    let image ← actualImage c deployment.spec
    let failure := if image ≠ c.image then "Runtime image drift was detected."
      else deploymentFailure deployment.status
    let (state, health) :=
      if d.desiredState = .stopped then
        if desiredReplicas = 0 ∧ available = 0 then (RuntimeState.stopped, Health.stopped)
        else (.reconciling, .stopping)
      else if failure ≠ "" then (.degraded, .unhealthy)
      else if 0 < desiredReplicas ∧ desiredReplicas ≤ ready ∧ desiredReplicas ≤ available ∧
          count (some deployment.generation) ≤
            count (deployment.status.get? "observedGeneration") then
        (.running, .healthy)
      else (.reconciling, .progressing)
    pure { componentResult c desiredReplicas ready available state health (restartCount pods)
      failure with imageDigest := image }

/-- The state of a deployment, from those of its components. -/
def overallState (d : DesiredDeployment) (observed : List ComponentResult) : RuntimeState :=
  if d.desiredState = .stopped then
    if observed.all (·.state == .stopped) && !observed.isEmpty then .stopped else .reconciling
  else if observed.any (·.state == .degraded) then .degraded
  else if observed.all (·.state == .running) && !observed.isEmpty then .running
  else .reconciling

/-! ### Reading the state object -/

def desiredFromState (state : Resource) : Except ControllerError DesiredDeployment :=
  match state.data.lookup "desired.json" with
  | none => .error (.conflict "The runtime state object is corrupted.")
  | some text =>
    match Json.loads (.dict py) text.toList.length text.toList with
    | .error _ => .error (.conflict "The runtime state object is corrupted.")
    | .ok payload => parseDesiredDeployment settings true payload

def phaseOf (state : Resource) : Except ControllerError Phase :=
  match (state.data.lookup "phase").bind Phase.parse with
  | some phase => .ok phase
  | none => .error (.conflict "The runtime state phase is invalid.")

/-- Is this object labelled as the deployment's by the controller? -/
def ownedBy (deploymentId : String) (r : Resource) : Bool :=
  r.labels.lookup managedByLabel == some managedBy &&
    r.labels.lookup deploymentLabel == some deploymentId

def readState (deploymentId : String) : Run (Option Resource) := do
  match ← kubeGet (stateKey settings deploymentId) with
  | none => pure none
  | some state =>
    if ownedBy deploymentId state then pure (some state)
    else .fail (.conflict "The runtime state object identity is invalid.")

/-! ### Checks before a deployment -/

/-- Is this the state object of a deployment that an older controller has deleted? -/
def isTombstone (k : Key) (r : Resource) : Bool :=
  match r.labels.lookup deploymentLabel with
  | some deploymentId => k.name == stateName deploymentId && r.data.lookup "phase" ==
    some "deleted" &&
      (r.labels.lookup componentLabel).isNone
  | none => false

def cleanupLegacyTombstones : Run Unit := do
  let resources ← kubeList settings.namespaceName .configMap [(managedByLabel, managedBy)]
  Prog.each (fun p : Key × Resource =>
    if isTombstone p.1 p.2 then kubeDelete p.1 else pure ()) resources

/-- The secret names that the components refer to, each with the keys it is asked for. -/
def requiredSecrets (d : DesiredDeployment) : List (String × List String) :=
  let refs := d.components.flatMap (·.secretRefs)
  (refs.map Prod.snd).eraseDups.map fun name =>
    (name, (refs.filter fun p => p.2 == name).map Prod.fst)

def checkSecretEntry (data : List (String × String)) (required : String × List String) :
    Except ControllerError Unit := do
  let unavailable : ControllerError :=
    .contract "Runtime secret references are not provisioned." "secret_reference_unavailable"
  match data.lookup required.1 with
  | none => throw unavailable
  | some raw => do
    ensure (raw.length ≤ 4096) unavailable
    match Json.loads (.unique py) raw.toList.length raw.toList with
    | .error _ => throw (.conflict "The runtime secret catalog is invalid.")
    | .ok entry => do
      ensure (entry.exactly ["secret_name", "keys"])
        (.conflict "The runtime secret catalog is invalid.")
      match entry.get? "keys" with
      | some (.arr items) =>
        match Json.strings items with
        | some keys =>
          ensure ((entry.get? "secret_name").any
              (·.eqStr (resolvedSecretName settings required.1)) &&
            keys.length ≤ 50 && keys.all isEnvKey && keys.Nodup && keys.Pairwise (le · ·) &&
            required.2.all (keys.contains ·)) unavailable
        | none => throw unavailable
      | _ => throw unavailable

def validateSecretCatalog (d : DesiredDeployment) : Run Unit := do
  if (requiredSecrets d).isEmpty then pure ()
  else
    match ← kubeGet ⟨settings.secretCatalogNamespace, .configMap,
      settings.secretCatalogName⟩ with
    | none => .fail (.contract "Runtime secret references are not provisioned."
        "secret_reference_unavailable")
    | some catalog =>
      if catalog.labels.lookup managedByLabel = some "archideal-operator" ∧
          catalog.labels.lookup "archideal.io/runtime-secret-catalog" = some "true" then
        -- Kubernetes leaves out a map without entries
        if catalog.data.isEmpty then .fail (.conflict "The runtime secret catalog is invalid.")
        else
          Prog.each (fun required => .lift (checkSecretEntry settings py catalog.data required))
            (requiredSecrets d)
      else .fail (.conflict "The runtime secret catalog identity is invalid.")

/-- Is this an object of the deployment, and of the component with this slug? -/
def isOurs (d : DesiredDeployment) (slug : Option String) (r : Resource) : Bool :=
  ownedBy d.deploymentId r && r.labels.lookup environmentLabel == some d.environment &&
    slug.all fun slug => r.labels.lookup componentLabel == some slug

/-- `_assert_owned`: is there an object, and is it ours? -/
def assertOwned (d : DesiredDeployment) (k : Key) (slug : Option String := none) : Run Bool := do
  match ← kubeGet k with
  | none => pure false
  | some r =>
    if isOurs d slug r then pure true
    else .fail (.conflict "A target Kubernetes resource is not owned by this runtime deployment.")

/-- The objects of a component. -/
def componentKeys (deploymentId slug : String) : List Key :=
  [componentKey settings deploymentId slug .deployment,
    componentKey settings deploymentId slug .service,
    componentKey settings deploymentId slug .horizontalPodAutoscaler,
    configKey settings deploymentId slug]

/-- The loop of `_assert_owned_resources`: has any of the objects been found? -/
def assertOwnedKeys (d : DesiredDeployment) : List (Key × String) → Run Bool
  | [] => pure false
  | (k, slug) :: rest => do
    let here ← assertOwned d k (some slug)
    let there ← assertOwnedKeys d rest
    pure (here || there)

/-- The objects of the components of a deployment, with their slugs. -/
def targets (d : DesiredDeployment) : List (Key × String) :=
  d.components.flatMap fun c =>
    (componentKeys settings d.deploymentId c.slug).map fun k => (k, c.slug)

def assertOwnedResources (d : DesiredDeployment) : Run Bool := do
  let here ← assertOwned d (stateKey settings d.deploymentId)
  let there ← assertOwnedKeys d (targets settings d)
  pure (here || there)

/-! ### Observing -/

/-- The loop over the objects of a deployment that is being deleted. -/
def anyRemaining : List Key → Run Bool
  | [] => pure false
  | k :: rest => do
    let found ← kubeGet k
    let more ← anyRemaining rest
    pure (found.isSome || more)

/-- The objects that `observe` waits for. -/
def remainingKeys (deploymentId : String) (d : DesiredDeployment) : List Key :=
  d.components.flatMap fun c => [componentKey settings deploymentId c.slug .deployment,
    componentKey settings deploymentId c.slug .service, configKey settings deploymentId c.slug,
    componentKey settings deploymentId c.slug .horizontalPodAutoscaler]

/-- The loop over the components of a deployment. -/
def observeComponents (deploymentId : String) (d : DesiredDeployment)
    (pods : List (Key × Resource)) : List Component → Run (List ComponentResult)
  | [] => pure []
  | c :: rest => do
    let deployment ← kubeGet (componentKey settings deploymentId c.slug .deployment)
    let mine := (pods.filter fun p => p.2.labels.lookup componentLabel == some c.slug).map Prod.snd
    let result ← .lift (componentStatus d c deployment mine)
    let more ← observeComponents deploymentId d pods rest
    pure (result :: more)

/-- The last step of a deletion. -/
def dropState (deploymentId : String) (d : DesiredDeployment) : Run RuntimeResult := do
  kubeDelete (stateKey settings deploymentId)
  pure (deletedResult d)

/-- `observe` of a deployment that is being deleted. -/
def observeDeleting (deploymentId : String) (d : DesiredDeployment) : Run RuntimeResult := do
  if ← anyRemaining (remainingKeys settings deploymentId d) then
    pure ⟨deploymentId, .deleting, "Runtime resources are terminating.", d.generation,
      d.components.map (withdrawnComponent .deleting)⟩
  else dropState settings deploymentId d

/-- `observe` of a deployment that is not being deleted. -/
def observeLive (deploymentId : String) (d : DesiredDeployment) : Run RuntimeResult := do
  let pods ← kubeList settings.namespaceName .pod (selector deploymentId)
  let observed ← observeComponents settings deploymentId d pods d.components
  pure ⟨deploymentId, overallState d observed,
    ((observed.find? fun c => c.lastError != "").map (·.lastError)).getD "", d.generation, observed⟩

def observe (deploymentId : String) : Run RuntimeResult := do
  match ← readState settings deploymentId with
  | none => .fail .notFound
  | some state =>
    let d ← .lift (desiredFromState settings py state)
    let phase ← .lift (phaseOf state)
    match phase with
    | .deleted => dropState settings deploymentId d
    | .deleting => observeDeleting settings deploymentId d
    | _ => observeLive settings deploymentId d

/-! ### Deploying -/

/-- The checks of `_deploy_unlocked` against the recorded deployment. -/
def admitDeploy (d : DesiredDeployment) (state : Resource) : Except ControllerError Unit := do
  let current ← desiredFromState settings py state
  let phase ← phaseOf state
  ensure (phase != .deleting && phase != .deleted)
    (.conflict "A deleted runtime identifier cannot be reused.")
  ensure (current.generation ≤ d.generation)
    (.conflict "The requested runtime generation is stale.")
  ensure (d.generation != current.generation ||
      sha256Json d.normalizedPayload == sha256Json current.normalizedPayload)
    (.conflict "The runtime generation was already used for another desired state.")

/-- The autoscaler of a component that is stopped or has a fixed number of replicas is deleted. -/
def dropAutoscaler (d : DesiredDeployment) (c : Component) : Run Unit :=
  match d.desiredState, c.scaling with
  | .stopped, _ | _, .fixed _ =>
    kubeDelete (componentKey settings d.deploymentId c.slug .horizontalPodAutoscaler)
  | _, _ => pure ()

/-- The autoscaler of a running component with a range of replicas is applied. -/
def applyAutoscaler (d : DesiredDeployment) (c : Component) : Run Unit :=
  match d.desiredState, c.scaling with
  | .running, .autoscale lo hi target =>
    kubeApply (componentKey settings d.deploymentId c.slug .horizontalPodAutoscaler)
      (hpaResource d c lo hi target)
  | _, _ => pure ()

/-- One round of the loop over the components of `_deploy_unlocked`. -/
def deployComponent (d : DesiredDeployment) (restartRequest : String) (c : Component) :
    Run Unit := do
  dropAutoscaler settings d c
  kubeApply (configKey settings d.deploymentId c.slug) (componentConfigMap d c)
  kubeApply (componentKey settings d.deploymentId c.slug .deployment)
    (deploymentResource settings d c restartRequest)
  kubeApply (componentKey settings d.deploymentId c.slug .service) (serviceResource d c)
  applyAutoscaler settings d c

/-- `_cleanup_legacy_tombstones` and `_preflight_deploy`. -/
def preflight (d : DesiredDeployment) : Run Unit := do
  cleanupLegacyTombstones settings
  validateSecretCatalog settings py d
  let _ ← assertOwnedResources settings d
  pure ()

/-- What `_deploy_unlocked` does once the request is admitted. -/
def reconcile (d : DesiredDeployment) (requestId restartRequest : String) : Run RuntimeResult := do
  preflight settings py d
  kubeApply (stateKey settings d.deploymentId) (stateConfigMap d .reconciling requestId)
  Prog.each (deployComponent settings d restartRequest) d.components
  kubeApply (stateKey settings d.deploymentId)
    (stateConfigMap d (if d.desiredState = .running then .active else .stopped) requestId)
  observe settings py d.deploymentId

def deployUnlocked (d : DesiredDeployment) (requestId : String) (requireExisting : Bool)
    (restartRequest : String) : Run RuntimeResult := do
  match ← readState settings d.deploymentId with
  | none =>
    if requireExisting then .fail .notFound
    else reconcile settings py d requestId restartRequest
  | some state =>
    .lift (admitDeploy settings py d state)
    reconcile settings py d requestId restartRequest

/-- The actions of a deployment. -/
inductive ActionName
  | start
  | stop
  | restart
  | redeploy
  deriving DecidableEq

def actionUnlocked (d : DesiredDeployment) (action : ActionName) (requestId : String) :
    Run RuntimeResult := do
  let required := match action with
    | .stop => DesiredState.stopped
    | _ => .running
  .lift (ensure (d.desiredState = required) (.contract (match action with
    | .start => "Start requires running desired state."
    | .stop => "Stop requires stopped desired state."
    | .restart => "Restart requires running desired state."
    | .redeploy => "Redeploy requires running desired state.")))
  deployUnlocked settings py d requestId true (match action with
    | .restart | .redeploy => requestId
    | _ => "")

/-! ### Undeploying -/

def deletionDesired (d : DesiredDeployment) (generation : ℕ) : DesiredDeployment :=
  { d with
    generation := generation
    desiredState := .absent
    normalizedPayload := normalizedPayload d.deploymentId d.environment generation .absent
      d.releaseDigest d.manifest d.components }

/-- The checks of `_undeploy_unlocked` against the recorded deployment; what is left of it to
delete. -/
def admitUndeploy (desired : Option DesiredDeployment) (state : Resource) :
    Except ControllerError DesiredDeployment := do
  let current ← desiredFromState settings py state
  match desired with
  | some d => do
    ensure (current.generation ≤ d.generation)
      (.conflict "The requested runtime generation is stale.")
    ensure (d.releaseDigest == current.releaseDigest)
      (.conflict "DELETE cannot replace the immutable runtime release.")
    pure (deletionDesired current d.generation)
  | none => pure (deletionDesired current current.generation)

/-- One round of the loop over the components of `_undeploy_unlocked`. -/
def undeployComponent (deploymentId : String) (c : Component) : Run Unit := do
  kubeDelete (componentKey settings deploymentId c.slug .horizontalPodAutoscaler)
  kubeDelete (componentKey settings deploymentId c.slug .deployment)
  kubeDelete (componentKey settings deploymentId c.slug .service)
  kubeDelete (configKey settings deploymentId c.slug)

/-- What `_undeploy_unlocked` does once it knows what to delete. -/
def tearDown (deploymentId requestId : String) (d : DesiredDeployment) : Run RuntimeResult := do
  kubeApply (stateKey settings d.deploymentId) (stateConfigMap d .deleting requestId)
  Prog.each (undeployComponent settings deploymentId) d.components
  (observe settings py deploymentId).handle fun e => match e with
    | .notFound => pure (deletedResult d)
    | e => .fail e

def checkDelete (deploymentId : String) (desired : Option DesiredDeployment) :
    Except ControllerError Unit := do
  match desired with
  | none => pure ()
  | some d => do
    ensure (d.desiredState = .absent) (.contract "DELETE requires absent desired state.")
    ensure (d.deploymentId = deploymentId)
      (.contract "DELETE payload identifier does not match its path.")

def undeployUnlocked (deploymentId requestId : String) (desired : Option DesiredDeployment) :
    Run RuntimeResult := do
  let current ← readState settings deploymentId
  .lift (checkDelete deploymentId desired)
  match current with
  | none =>
    match desired with
    | none => pure ⟨deploymentId, .deleted, "", 0, []⟩
    | some d =>
      if ← assertOwnedResources settings d then tearDown settings py deploymentId requestId d
      else pure (deletedResult d)
  | some state =>
    let d ← .lift (admitUndeploy settings py desired state)
    let phase ← .lift (phaseOf state)
    if phase = .deleted then dropState settings deploymentId d
    else
      let _ ← assertOwnedResources settings d
      tearDown settings py deploymentId requestId d

end ArchiDeal.Reconciler
