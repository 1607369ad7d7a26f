import ArchiDeal.Reconciler.Cluster
import ArchiDeal.Reconciler.Contract

/-!
# The objects of a deployment

`runtime_controller_service/resources.py`: the names and labels of the objects of a deployment, and
the objects that the controller applies.
-/

namespace ArchiDeal.Reconciler

open Text Hosting Calls

/-! ### Labels -/

/-- `app.kubernetes.io/managed-by`. -/
def managedByLabel : String := "app.kubernetes.io/managed-by"

def managedBy : String := "dealhost-runtime-controller"

def deploymentLabel : String := "archideal.io/runtime-deployment"

def componentLabel : String := "archideal.io/runtime-component"

def environmentLabel : String := "archideal.io/runtime-environment"

/-- `selector` without a component. -/
def selector (deploymentId : String) : List (String × String) :=
  [(managedByLabel, managedBy), (deploymentLabel, deploymentId)]

def commonLabels (d : DesiredDeployment) (component : Option Component := none) :
    List (String × String) :=
  [(managedByLabel, managedBy), ("app.kubernetes.io/part-of", "archideal-runtime"),
    (deploymentLabel, d.deploymentId), (environmentLabel, d.environment)] ++
  match component with
  | some c => [("app.kubernetes.io/name", c.slug), (componentLabel, c.slug)]
  | none => []

/-! ### Names -/

/-- `hashlib.sha256(s.encode()).hexdigest()`. -/
def sha256Hex (s : String) : String := Sha256.hexdigest (encode s.toList)

def stateName (deploymentId : String) : String :=
  "dealrt-" ++ take 24 (sha256Hex deploymentId) ++ "-state"

/-- `s.rstrip("-")`. -/
def rstripHyphens (s : String) : String :=
  String.ofList ((s.toList.reverse.dropWhile (· == '-')).reverse)

/-- `component_name`: of the 63 characters of a name, the prefix and the two hashes take 37. -/
def componentName (deploymentId slug : String) (suffix : String := "") : String :=
  "dealrt-" ++ take 20 (sha256Hex deploymentId) ++ "-" ++
    rstripHyphens (take (63 - (37 + suffix.length)) slug) ++ "-" ++
    take 8 (sha256Hex slug) ++ suffix

def resolvedSecretName (settings : ControllerSettings) (logicalName : String) : String :=
  settings.secretNamePrefix ++ "-" ++ logicalName

variable (settings : ControllerSettings)

/-- The state object of a deployment. -/
def stateKey (deploymentId : String) : Key :=
  ⟨settings.namespaceName, .configMap, stateName deploymentId⟩

/-- The `Deployment`, `Service` or `HorizontalPodAutoscaler` of a component. -/
def componentKey (deploymentId slug : String) (kind : Kind) : Key :=
  ⟨settings.namespaceName, kind, componentName deploymentId slug⟩

/-- The configuration of a component. -/
def configKey (deploymentId slug : String) : Key :=
  ⟨settings.namespaceName, .configMap, componentName deploymentId slug "-cfg"⟩

/-! ### Objects -/

/-- The phases of the state object. -/
inductive Phase
  | reconciling
  | active
  | stopped
  | deleting
  | deleted
  deriving DecidableEq

/-- The text of a phase. -/
def Phase.value : Phase → String
  | reconciling => "reconciling"
  | active => "active"
  | stopped => "stopped"
  | deleting => "deleting"
  | deleted => "deleted"

/-- The phase of a text. -/
def Phase.parse (s : String) : Option Phase :=
  if s = "reconciling" then some reconciling
  else if s = "active" then some active
  else if s = "stopped" then some stopped
  else if s = "deleting" then some deleting
  else if s = "deleted" then some deleted
  else none

@[simp] theorem Phase.parse_value (p : Phase) : Phase.parse p.value = some p := by
  cases p <;> decide

/-- `canonical_json(value).decode("utf-8")`. -/
def canonicalText (v : Json) : String := String.ofList v.sortKeys.dumps

def stateConfigMap (d : DesiredDeployment) (phase : Phase) (requestId : String) : Resource where
  labels := commonLabels d
  annotations := [("archideal.io/desired-generation", toString d.generation),
    ("archideal.io/release-digest", d.releaseDigest),
    ("archideal.io/last-request-id", requestId),
    ("archideal.io/payload-digest", sha256Json d.normalizedPayload)]
  data := [("phase", phase.value), ("desired.json", canonicalText d.normalizedPayload)]

def componentConfigMap (d : DesiredDeployment) (c : Component) : Resource where
  labels := commonLabels d (some c)
  immutable := some false
  data := c.configuration.insertionSort fun a b => le a.1 b.1

def podLabels (d : DesiredDeployment) (c : Component) : Json :=
  stringMap (commonLabels d (some c) ++
    [("archideal.io/runtime-workload", componentName d.deploymentId c.slug)])

/-- The environment variables of the container. -/
def containerEnv (d : DesiredDeployment) (c : Component) : List Json :=
  ((c.configuration.map Prod.fst).insertionSort fun a b => le a b).map (fun key =>
    .obj [("name", .str key), ("valueFrom", .obj [("configMapKeyRef",
      .obj [("name", .str (componentName d.deploymentId c.slug "-cfg")), ("key", .str key)])])]) ++
  (c.secretRefs.insertionSort fun a b => le a.1 b.1).map fun p =>
    .obj [("name", .str p.1), ("valueFrom", .obj [("secretKeyRef",
      .obj [("name", .str (resolvedSecretName settings p.2)), ("key", .str p.1)])])]

/-- A probe of the container. -/
def probe (c : Component) (initialDelay : Option ℤ) (period timeout threshold : ℤ) : Json :=
  .obj ([("httpGet", .obj [("path", .str c.healthcheckPath), ("port", .str "http")])] ++
    (initialDelay.map fun n => ("initialDelaySeconds", Json.int n)).toList ++
    [("periodSeconds", .int period), ("timeoutSeconds", .int timeout),
      ("failureThreshold", .int threshold)])

/-- The resources of the container. -/
def ComponentResources.toJson (r : ComponentResources) : Json :=
  .obj [("requests", .obj [("cpu", .str r.requests.cpu), ("memory", .str r.requests.memory)]),
    ("limits", .obj [("cpu", .str r.limits.cpu), ("memory", .str r.limits.memory)])]

/-- The container of a component. -/
def container (d : DesiredDeployment) (c : Component) : Json :=
  .obj [("name", .str "main"), ("image", .str c.image), ("imagePullPolicy", .str "IfNotPresent"),
    ("ports", .arr [.obj [("name", .str "http"), ("containerPort", .int c.containerPort)]]),
    ("env", .arr (containerEnv settings d c)), ("resources", c.resources.toJson),
    ("startupProbe", probe c none 5 2 30), ("readinessProbe", probe c (some 2) 5 2 6),
    ("livenessProbe", probe c (some 10) 10 2 6),
    ("securityContext", .obj [("allowPrivilegeEscalation", .bool false),
      ("readOnlyRootFilesystem", .bool true),
      ("capabilities", .obj [("drop", .arr [.str "ALL"])])]),
    ("volumeMounts", .arr [.obj [("name", .str "tmp"), ("mountPath", .str "/tmp")]])]

/-- The specification of the pods of a component. -/
def podSpec (d : DesiredDeployment) (c : Component) : Json :=
  .obj ([("serviceAccountName", .str settings.workloadServiceAccount),
    ("automountServiceAccountToken", .bool false), ("terminationGracePeriodSeconds", .int 30),
    ("securityContext", .obj [("runAsNonRoot", .bool true),
      ("seccompProfile", .obj [("type", .str "RuntimeDefault")])]),
    ("containers", .arr [container settings d c]),
    ("volumes", .arr [.obj [("name", .str "tmp"), ("emptyDir", .obj [])]])] ++
    if settings.imagePullSecret = "" then []
    else [("imagePullSecrets", .arr [.obj [("name", .str settings.imagePullSecret)]])])

/-- The number of replicas a deployment starts with. -/
def startReplicas (d : DesiredDeployment) (c : Component) : ℕ :=
  match d.desiredState, c.scaling with
  | .running, .fixed replicas => replicas
  | .running, .autoscale minReplicas _ _ => minReplicas
  | _, _ => 0

def deploymentResource (d : DesiredDeployment) (c : Component) (restartRequest : String := "") :
    Resource :=
  let annotations := [("archideal.io/desired-generation", toString d.generation),
    ("archideal.io/release-digest", d.releaseDigest)] ++
    if restartRequest = "" then [] else [("archideal.io/restart-request", restartRequest)]
  { labels := commonLabels d (some c)
    annotations := annotations
    spec := .obj [("replicas", .int (startReplicas d c)), ("revisionHistoryLimit", .int 3),
      ("progressDeadlineSeconds", .int 600),
      ("strategy", .obj [("type", .str "RollingUpdate"),
        ("rollingUpdate", .obj [("maxUnavailable", .int 0), ("maxSurge", .int 1)])]),
      ("selector", .obj [("matchLabels", podLabels d c)]),
      ("template", .obj [("metadata", .obj [("labels", podLabels d c),
        ("annotations", stringMap annotations)]), ("spec", podSpec settings d c)])] }

def serviceResource (d : DesiredDeployment) (c : Component) : Resource where
  labels := commonLabels d (some c)
  spec := .obj [("type", .str "ClusterIP"), ("selector", podLabels d c),
    ("ports", .arr [.obj [("name", .str "http"), ("port", .int 80), ("protocol", .str "TCP"),
      ("targetPort", .str "http")]])]

/-- `hpa_resource` of a component with the given limits. -/
def hpaResource (d : DesiredDeployment) (c : Component) (minReplicas maxReplicas target : ℕ) :
    Resource where
  labels := commonLabels d (some c)
  spec := .obj [("scaleTargetRef", .obj [("apiVersion", .str "apps/v1"),
      ("kind", .str "Deployment"), ("name", .str (componentName d.deploymentId c.slug))]),
    ("minReplicas", .int minReplicas), ("maxReplicas", .int maxReplicas),
    ("metrics", .arr [.obj [("type", .str "Resource"), ("resource", .obj [("name", .str "cpu"),
      ("target", .obj [("type", .str "Utilization"), ("averageUtilization", .int target)])])]]),
    ("behavior", .obj [("scaleDown", .obj [("stabilizationWindowSeconds", .int 300)]),
      ("scaleUp", .obj [("stabilizationWindowSeconds", .int 0)])])]

end ArchiDeal.Reconciler
