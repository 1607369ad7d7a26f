import ArchiDeal.Lib.Table
import ArchiDeal.Lib.Json

/-!
# The rows of the runtime tables

`apps/hosting/models.py`: the catalogue (`HostedApplication`, `Module` with its
`ModuleRuntimeProfile`, `ApplicationVersion`, `RuntimeEnvironment`) and the runtime tables
(`RuntimeRelease`, `RuntimeDeployment` with its `RuntimeComponent` rows, `RuntimeOperation`).

A table maps primary keys to rows. The components of a deployment are only ever reached through
it (`deployment.components`), so they are part of its row here; a JSON column whose writers all
go through one validator has that validator's result type. Instants are microseconds since the
epoch.
-/

namespace ArchiDeal.Hosting

/-- An instant, in microseconds since the epoch. -/
abbrev Time := ℕ

/-- `timedelta(seconds=n)`. -/
def seconds (n : ℕ) : Time := n * 1000000

abbrev Uuid := BitVec 128

/-- The hexadecimal digits `i, …, i + n - 1` of a UUID. -/
def uuidDigits (u : Uuid) (i n : ℕ) : List Char :=
  (List.range n).map fun j => Nat.digitChar (u.toNat >>> (124 - 4 * (i + j)) % 16)

/-- `str(uuid)`: five groups of lower-case digits. -/
def uuidStr (u : Uuid) : String :=
  String.ofList (uuidDigits u 0 8 ++ '-' :: (uuidDigits u 8 4 ++ '-' :: (uuidDigits u 12 4 ++
    '-' :: (uuidDigits u 16 4 ++ '-' :: uuidDigits u 20 12))))

/-! ### The catalogue -/

inductive DeploymentTarget
  | compose
  | swarm
  | kubernetes
  | external
  deriving DecidableEq

def DeploymentTarget.value : DeploymentTarget → String
  | .compose => "compose"
  | .swarm => "swarm"
  | .kubernetes => "kubernetes"
  | .external => "external"

structure ModuleRuntimeProfile where
  schemaVersion : ℕ
  spec : Json
  specDigest : String
  enabled : Bool
  verifiedAt : Option Time
  deriving DecidableEq

structure Module where
  slug : String
  image : String
  enabled : Bool
  deploymentTarget : DeploymentTarget
  runtimeProfile : Option ModuleRuntimeProfile
  deriving DecidableEq

/-- `HostedApplication`; `modules` are the keys of its modules. -/
structure HostedApplication where
  name : String
  slug : String
  modules : List ℕ
  currentVersion : String
  enabled : Bool
  revision : ℕ
  deriving DecidableEq

/-- `ApplicationVersion`; a version from before runtime snapshots has an empty snapshot and an
empty digest. -/
structure ApplicationVersion where
  application : ℕ
  version : String
  notes : String
  source : String
  runtimeSnapshot : Json
  runtimeSnapshotDigest : String
  deriving DecidableEq

structure RuntimeEnvironment where
  orchestrator : String
  enabled : Bool
  capabilities : Json
  policy : Json
  deriving DecidableEq

/-! ### Releases and deployments -/

structure RuntimeRelease where
  applicationVersion : ℕ
  manifest : Json
  manifestDigest : String
  deriving DecidableEq

inductive DesiredState
  | running
  | stopped
  | absent
  deriving DecidableEq

def DesiredState.value : DesiredState → String
  | .running => "running"
  | .stopped => "stopped"
  | .absent => "absent"

/-- `RuntimeDeployment.ObservedState`, which is also what a controller may report. -/
inductive ObservedState
  | pending
  | reconciling
  | running
  | degraded
  | stopped
  | deleting
  | deleted
  | failed
  | unknown
  deriving DecidableEq

def ObservedState.value : ObservedState → String
  | .pending => "pending"
  | .reconciling => "reconciling"
  | .running => "running"
  | .degraded => "degraded"
  | .stopped => "stopped"
  | .deleting => "deleting"
  | .deleted => "deleted"
  | .failed => "failed"
  | .unknown => "unknown"

def ObservedState.transitional : ObservedState → Bool
  | .pending | .reconciling | .deleting => true
  | _ => false

/-- The value of one entry of `RuntimeDeployment.scaling`. -/
inductive ScalingPolicy
  | fixed (replicas : ℕ)
  | autoscale (minReplicas maxReplicas targetCpuUtilization : ℕ)
  deriving DecidableEq

/-- `RuntimeDeployment.configuration` and `secret_refs`: values by key, by module slug. -/
abbrev ComponentValues := List (String × List (String × String))

/-- `RuntimeDeployment.scaling`: a policy for each module slug. -/
abbrev Scaling := List (String × ScalingPolicy)

def ComponentValues.toJson (v : ComponentValues) : Json :=
  .obj (v.map fun e => (e.1, .obj (e.2.map fun p => (p.1, .str p.2))))

def ScalingPolicy.toJson : ScalingPolicy → Json
  | .fixed replicas => .obj [("mode", .str "fixed"), ("replicas", .int replicas)]
  | .autoscale minReplicas maxReplicas target =>
    .obj [("mode", .str "autoscale"), ("min_replicas", .int minReplicas),
      ("max_replicas", .int maxReplicas), ("target_cpu_utilization", .int target)]

def Scaling.toJson (v : Scaling) : Json := .obj (v.map fun e => (e.1, e.2.toJson))

structure RuntimeComponent where
  moduleId : ℕ
  slug : String
  imageDigest : String
  desiredReplicas : ℕ
  readyReplicas : ℕ := 0
  availableReplicas : ℕ := 0
  state : String := "pending"
  health : String := "unknown"
  restartCount : ℕ := 0
  lastError : String := ""
  deriving DecidableEq

structure RuntimeDeployment where
  application : ℕ
  release : ℕ
  environment : String
  desiredState : DesiredState := .running
  observedState : ObservedState := .pending
  controllerId : String := ""
  configuration : ComponentValues
  secretRefs : ComponentValues
  scaling : Scaling
  generation : ℕ := 1
  observedGeneration : ℕ := 0
  revision : ℕ := 1
  lastError : String := ""
  lastReconciledAt : Option Time := none
  createdBy : Option ℕ
  createdByLabel : String
  deletedAt : Option Time := none
  createdAt : Time
  updatedAt : Time
  components : List RuntimeComponent
  deriving DecidableEq

/-! ### Operations -/

inductive OperationType
  | deploy
  | configure
  | start
  | stop
  | restart
  | scale
  | undeploy
  | logSnapshot
  deriving DecidableEq

/-- `RuntimeOperation.Status`. -/
inductive Status
  | queued
  | running
  | succeeded
  | failed
  deriving DecidableEq

/-- `RuntimeOperation.payload`: the keys the handlers put into it. -/
structure Payload where
  desiredState : Option DesiredState := none
  changedFields : Option (List String) := none
  component : Option String := none
  replicas : Option ℕ := none
  tailLines : Option ℕ := none
  sinceSeconds : Option ℕ := none
  deriving DecidableEq

/-- `RuntimeOperation.progress`. -/
structure Progress where
  stage : String
  percent : Option ℕ
  deriving DecidableEq

/-- `RuntimeOperation.result`, when it is not null. -/
inductive Result
  | dispatched
  | reconciled (state : ObservedState) (observedGeneration : ℕ)
  | ephemeral (expiresAt : Time)
  deriving DecidableEq

/-- `RuntimeOperation.error`, when it is not null. -/
structure OperationError where
  code : String
  detail : String
  retryable : Bool
  deriving DecidableEq

structure RuntimeOperation where
  deployment : Uuid
  operationType : OperationType
  status : Status := .queued
  payload : Payload
  progress : Progress := ⟨"queued", none⟩
  result : Option Result := none
  error : Option OperationError := none
  idempotencyKey : String
  requestHash : String
  targetGeneration : ℕ
  actor : Option ℕ
  actorLabel : String
  attempts : ℕ := 0
  controllerFailures : ℕ := 0
  nextAttemptAt : Option Time := none
  leasedBy : String := ""
  leaseToken : Option Uuid := none
  leaseExpiresAt : Option Time := none
  requestedAt : Time
  startedAt : Option Time := none
  finishedAt : Option Time := none
  deriving DecidableEq

namespace RuntimeOperation

def isLog (o : RuntimeOperation) : Bool := o.operationType == .logSnapshot

/-- `status__in=[QUEUED, RUNNING]`. -/
def isActive (o : RuntimeOperation) : Bool := o.status == .queued || o.status == .running

/-- An active operation that is not the capture of a log. -/
def mutates (o : RuntimeOperation) : Bool := o.isActive && !o.isLog

/-- An active capture of a log. -/
def captures (o : RuntimeOperation) : Bool := o.isActive && o.isLog

end RuntimeOperation

/-! ### The database -/

/-- The stored rows. -/
structure Database where
  applications : Table ℕ HostedApplication
  modules : Table ℕ Module
  versions : Table ℕ ApplicationVersion
  environments : Table String RuntimeEnvironment
  releases : Table ℕ RuntimeRelease
  deployments : Table Uuid RuntimeDeployment
  operations : Table Uuid RuntimeOperation
  deriving DecidableEq

namespace Database

def saveDeployment (db : Database) (k : Uuid) (d : RuntimeDeployment) : Database :=
  { db with deployments := db.deployments.insert k d }

def saveOperation (db : Database) (i : Uuid) (o : RuntimeOperation) : Database :=
  { db with operations := db.operations.insert i o }

/-- Does deployment `k` have an operation that satisfies `p`? -/
def hasOperation (db : Database) (k : Uuid) (p : RuntimeOperation → Bool) : Bool :=
  db.operations.any fun _ o => o.deployment == k && p o

variable (db : Database) (k : Uuid) (d : RuntimeDeployment) (o : RuntimeOperation)

@[simp] theorem saveDeployment_operations :
    (db.saveDeployment k d).operations = db.operations := rfl

@[simp] theorem saveOperation_deployments :
    (db.saveOperation k o).deployments = db.deployments := rfl

@[simp] theorem saveDeployment_releases : (db.saveDeployment k d).releases = db.releases := rfl

@[simp] theorem saveOperation_releases : (db.saveOperation k o).releases = db.releases := rfl

@[simp] theorem saveDeployment_versions : (db.saveDeployment k d).versions = db.versions := rfl

@[simp] theorem saveOperation_versions : (db.saveOperation k o).versions = db.versions := rfl

@[simp] theorem lookup_saveDeployment (j : Uuid) :
    (db.saveDeployment k d).deployments.lookup j =
      if j = k then some d else db.deployments.lookup j :=
  Table.lookup_insert_eq k j d

@[simp] theorem lookup_saveOperation (j : Uuid) :
    (db.saveOperation k o).operations.lookup j =
      if j = k then some o else db.operations.lookup j :=
  Table.lookup_insert_eq k j o

end Database

end ArchiDeal.Hosting
