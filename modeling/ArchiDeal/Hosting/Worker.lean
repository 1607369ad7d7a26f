import ArchiDeal.Hosting.Serializers

/-!
# The operation worker

`apps/hosting/runtime_worker.py`: `RuntimeOperationProcessor`. Each transaction of the worker is a
function on the rows it locks; what the worker keeps in memory between its transactions is a
`Session`.

* `claimOperation`: `_claim`;
* `dispatch`, `Call.snapshot`, `received`: `_execute`, up to the answer of the controller;
* `recordSnapshot`: `_record_snapshot`;
* `logEntry`, `completeLogs`: `_complete_logs`;
* `controllerFailure`, `unexpectedFailure`: the two failure exits.
-/

namespace ArchiDeal.Hosting

open Text

/-! ### Claiming -/

/-- Is the operation free to be claimed at `now`? -/
def RuntimeOperation.claimable (o : RuntimeOperation) (now : Time) : Bool :=
  (o.status == .queued || (o.status == .running && o.leaseExpiresAt.all (· ≤ now))) &&
    o.nextAttemptAt.all (· ≤ now)

/-- The row that `_claim` saves. -/
def claimOperation (worker : String) (token : Uuid) (now : Time) (o : RuntimeOperation) :
    RuntimeOperation :=
  { o with
    status := .running
    startedAt := some (o.startedAt.getD now)
    attempts := o.attempts + 1
    leasedBy := take 128 worker
    leaseToken := some token
    leaseExpiresAt := some (now + seconds 90)
    nextAttemptAt := none
    progress := ⟨"dispatching", some 10⟩ }

/-! ### Dispatching -/

/-- What `process_next` loads after the claim. -/
structure Loaded where
  operation : RuntimeOperation
  deployment : RuntimeDeployment
  release : RuntimeRelease
  environment : RuntimeEnvironment
  deriving DecidableEq

/-- The load of operation `i` with its related rows. -/
def Database.load (db : Database) (i : Uuid) : Option Loaded := do
  let o ← db.operations.lookup i
  let d ← db.deployments.lookup o.deployment
  let release ← db.releases.lookup d.release
  let environment ← db.environments.lookup d.environment
  pure ⟨o, d, release, environment⟩

def desiredStateOf (o : RuntimeOperation) (d : RuntimeDeployment) : DesiredState :=
  o.payload.desiredState.getD d.desiredState

def controllerPayload (l : Loaded) : Json :=
  .obj [("deployment_id", .str (uuidStr l.operation.deployment)),
    ("environment", .str l.deployment.environment),
    ("generation", .int l.operation.targetGeneration),
    ("desired_state", .str (desiredStateOf l.operation l.deployment).value),
    ("release", .obj [("digest", .str l.release.manifestDigest),
      ("manifest", l.release.manifest)]),
    ("configuration", l.deployment.configuration.toJson),
    ("secret_refs", l.deployment.secretRefs.toJson),
    ("scaling", l.deployment.scaling.toJson)]

/-- A call of the controller client that answers with a snapshot. -/
inductive Call
  | deploy (deploymentId : String) (payload : Json)
  | update (controllerId : String) (payload : Json)
  | action (controllerId : String) (name : OperationType) (payload : Json)
  | undeploy (controllerId : String) (payload : Json)
  | status (controllerId : String)
  deriving DecidableEq

/-- What an exception inside `_execute` leads to. -/
inductive WorkerException
  /-- `RuntimeControllerUnavailable` or `RuntimeControllerError`. -/
  | controller (e : ControllerException)
  /-- Any other exception. -/
  | unexpected
  deriving DecidableEq

/-- `deployment.controller_id or str(deployment.id)`. -/
def removalId (l : Loaded) : String :=
  if l.deployment.controllerId = "" then uuidStr l.operation.deployment
  else l.deployment.controllerId

/-- The first call of `_execute` for an operation that is not the capture of a log. -/
def dispatch (l : Loaded) : Except ControllerException Call :=
  if l.deployment.generation ≠ l.operation.targetGeneration then
    .error (.error "The queued operation no longer matches the deployment generation." (some 409))
  else if l.operation.result = some .dispatched then .ok (.status l.deployment.controllerId)
  else
    let payload := controllerPayload l
    match l.operation.operationType with
    | .deploy => .ok (.deploy (uuidStr l.operation.deployment) payload)
    | .configure | .scale => .ok (.update l.deployment.controllerId payload)
    | .start => .ok (.action l.deployment.controllerId .start payload)
    | .stop => .ok (.action l.deployment.controllerId .stop payload)
    | .restart => .ok (.action l.deployment.controllerId .restart payload)
    | .undeploy => .ok (.undeploy (removalId l) payload)
    | .logSnapshot => .error (.error "Unsupported queued runtime operation." none)

/-- The decoded body that `_request` returns must be an object. -/
def decoded (answer : Except ControllerException Json) : Except ControllerException Json := do
  let data ← answer
  ensure data.isObj (.error "Runtime controller returned an invalid response." none)
  pure data

/-- What the client makes of the answer to a call. The identifier in the path is checked before
anything is sent. -/
def Call.snapshot (answer : Except ControllerException Json) :
    Call → Except ControllerException RuntimeSnapshot
  | .deploy deploymentId _ => do
    let data ← decoded answer
    Hosting.snapshot data "" true deploymentId
  | .update controllerId _ | .action controllerId _ _ | .undeploy controllerId _
  | .status controllerId => do
    let _ ← identifier controllerId
    let data ← decoded answer
    Hosting.snapshot data controllerId false controllerId

/-! ### Recording a snapshot -/

def maxReconciliationAge : Time := seconds 1800

def validateSnapshotGeneration (d : RuntimeDeployment) (s : RuntimeSnapshot)
    (targetGeneration : ℕ) : Except ControllerException Unit := do
  ensure (s.observedGeneration ≤ targetGeneration)
    (.error "Runtime controller reported a generation newer than the queued operation." none)
  ensure (d.observedGeneration ≤ s.observedGeneration)
    (.error "Runtime controller reported an observed generation older than DEALHost state." none)

def checkComponents (components : List RuntimeComponent) (s : RuntimeSnapshot) :
    Except ControllerException Unit := do
  let expected := components.map RuntimeComponent.slug
  let received := s.components.map ComponentSnapshot.slug
  if s.state = .deleted ∧ received = [] then pure ()
  else
    ensure (received.all (expected.contains ·) && expected.all (received.contains ·))
      (.error "Runtime controller component set does not match the immutable release." none)
    ensure (s.components.all fun observed =>
        components.all fun c => c.slug != observed.slug || c.imageDigest == observed.imageDigest)
      (.error "Runtime controller reported an image outside the immutable release." none)

def applyComponent (s : RuntimeSnapshot) (c : RuntimeComponent) : RuntimeComponent :=
  if s.state = .deleted ∧ s.components = [] then
    { c with
      desiredReplicas := 0
      readyReplicas := 0
      availableReplicas := 0
      state := ObservedState.deleted.value
      health := "stopped"
      lastError := "" }
  else match s.components.find? fun observed => observed.slug == c.slug with
    | some observed => { c with
      desiredReplicas := observed.desiredReplicas
      readyReplicas := observed.readyReplicas
      availableReplicas := observed.availableReplicas
      state := observed.state
      health := observed.health
      restartCount := observed.restartCount
      lastError := observed.lastError }
    | none => c

/-- The states that a desired state allows. -/
def expectedStates : DesiredState → List ObservedState
  | .running => [.running, .degraded]
  | .stopped => [.stopped]
  | .absent => [.deleted]

/-- `_terminal_state_error`; `""` is no error. The special case of an undeploy in the source is
overwritten by the desired state. -/
def terminalStateError (o : RuntimeOperation) (d : RuntimeDeployment) (s : RuntimeSnapshot) :
    String :=
  if s.state = .failed ∨ s.state = .unknown then ""
  else
    let desired := desiredStateOf o d
    if s.state ∈ expectedStates desired then ""
    else
      let state := s.state.value
      let desired := desired.value
      s!"Runtime controller reported terminal state {state} while the desired state is {desired}."

/-- An operation without its lease. -/
def RuntimeOperation.released (o : RuntimeOperation) : RuntimeOperation :=
  { o with
    leasedBy := ""
    leaseToken := none
    leaseExpiresAt := none }

/-- Does the snapshot leave the operation waiting? -/
def awaits (o : RuntimeOperation) (s : RuntimeSnapshot) : Bool :=
  decide (s.observedGeneration < o.targetGeneration) && s.state != .failed && s.state != .unknown

/-- The deployment while its operation waits; `clock` is the instant of the write. -/
def RuntimeDeployment.observing (d : RuntimeDeployment) (s : RuntimeSnapshot) (now clock : Time) :
    RuntimeDeployment :=
  { d with
    controllerId := s.controllerId
    revision := d.revision + 1
    lastReconciledAt := some now
    updatedAt := clock }

/-- The second write to a deployment whose operation fails. -/
def RuntimeDeployment.failedWith (d : RuntimeDeployment) (detail : String) : RuntimeDeployment :=
  { d with observedState := .failed, lastError := detail }

/-- An operation that waits for the next look at the controller. -/
def RuntimeOperation.waiting (o : RuntimeOperation) (s : RuntimeSnapshot) (now : Time) :
    RuntimeOperation :=
  { o.released with
    status := .running
    result := some .dispatched
    progress := ⟨if awaits o s then "waiting_for_generation" else s.state.value, some 50⟩
    nextAttemptAt := some (now + seconds 2) }

/-- An operation that has waited for too long. -/
def RuntimeOperation.timedOut (o : RuntimeOperation) (now : Time) : RuntimeOperation :=
  { o.released with
    status := .failed
    error := some ⟨"runtime_reconciliation_timeout", "Runtime reconciliation timed out.", true⟩
    progress := ⟨"failed", some 100⟩
    finishedAt := some now
    nextAttemptAt := none }

/-- The branch of `_record_snapshot` for an operation that has to wait, or has waited too long. -/
def recordTransitional (o : RuntimeOperation) (d : RuntimeDeployment) (s : RuntimeSnapshot)
    (now clock : Time) : Except ControllerException (RuntimeOperation × RuntimeDeployment) := do
  validateSnapshotGeneration d s o.targetGeneration
  checkComponents d.components s
  let d := d.observing s now clock
  if o.startedAt.getD o.requestedAt + maxReconciliationAge ≤ now then
    pure (o.timedOut now, d.failedWith "Runtime reconciliation timed out.")
  else pure (o.waiting s now, d)

def applySnapshot (d : RuntimeDeployment) (s : RuntimeSnapshot) (now clock : Time) :
    RuntimeDeployment :=
  { d with
    controllerId := s.controllerId
    observedState := s.state
    observedGeneration := s.observedGeneration
    lastError := if s.state = .degraded ∨ s.state = .failed ∨ s.state = .unknown then s.message
      else ""
    deletedAt := if s.state = .deleted then some clock else d.deletedAt
    revision := d.revision + 1
    lastReconciledAt := some now
    updatedAt := clock
    components := d.components.map (applyComponent s) }

/-- The common end of an operation in `_record_snapshot`. -/
def RuntimeOperation.ended (o : RuntimeOperation) (s : RuntimeSnapshot) (now : Time) :
    RuntimeOperation :=
  { o.released with
    progress := ⟨s.state.value, some 100⟩
    finishedAt := some now
    nextAttemptAt := none }

def RuntimeOperation.reconciliationFailed (o : RuntimeOperation) (s : RuntimeSnapshot)
    (detail : String) (now : Time) : RuntimeOperation :=
  { o.ended s now with
    status := .failed
    error := some ⟨"runtime_reconciliation_failed", detail, true⟩ }

def RuntimeOperation.reconciled (o : RuntimeOperation) (s : RuntimeSnapshot) (now : Time) :
    RuntimeOperation :=
  { o.ended s now with
    status := .succeeded
    result := some (.reconciled s.state s.observedGeneration)
    error := none }

/-- The other branch of `_record_snapshot`: the operation ends. `loaded` is the operation as it was
loaded after the claim. -/
def recordTerminal (loaded o : RuntimeOperation) (d : RuntimeDeployment) (s : RuntimeSnapshot)
    (now clock : Time) : Except ControllerException (RuntimeOperation × RuntimeDeployment) := do
  validateSnapshotGeneration d s o.targetGeneration
  checkComponents d.components s
  let applied := applySnapshot d s now clock
  let terminalError := terminalStateError loaded applied s
  if terminalError ≠ "" then
    pure (o.reconciliationFailed s terminalError now, applied.failedWith terminalError)
  else if s.state = .failed ∨ s.state = .unknown then
    let detail := if s.message ≠ "" then s.message else "Runtime reconciliation failed."
    pure (o.reconciliationFailed s detail now, applied)
  else pure (o.reconciled s now, applied)

/-- `_record_snapshot` on the locked rows, once the lease token has been checked. -/
def recordSnapshot (loaded o : RuntimeOperation) (d : RuntimeDeployment) (s : RuntimeSnapshot)
    (now clock : Time) : Except ControllerException (RuntimeOperation × RuntimeDeployment) :=
  if s.state.transitional ∨ awaits o s then recordTransitional o d s now clock
  else recordTerminal loaded o d s now clock

/-! ### Completing a log -/

def logTtl : Time := seconds 300

/-- The byte limit of an environment. -/
def maximumBytes (capabilities : Json) : ℕ :=
  match capabilities.get? "logs" with
  | some (.obj limits) => match (Json.obj limits).get? "max_bytes" with
    | some (.int configured) => (min (max configured 1) 262144).toNat
    | _ => 262144
  | _ => 262144

/-- The snapshot that `_complete_logs` puts into the cache. -/
def logEntry (component : String) (capabilities : Json) (logs : RuntimeLogs) (now : Time) :
    LogEntry :=
  let maximum := maximumBytes capabilities
  let content := "\n".intercalate logs.lines
  let tooLong := decide (content.utf8ByteSize > maximum)
  let kept := if tooLong then String.ofList (takeBytes maximum content.toList) else content
  { component := component
    content := kept
    truncated := logs.truncated || tooLong
    lineCount := lineCount kept
    capturedAt := now
    expiresAt := now + logTtl }

/-- The transaction of `_complete_logs`, once the lease token has been checked. -/
def completeLogs (o : RuntimeOperation) (entry : LogEntry) : RuntimeOperation :=
  { o.released with
    status := .succeeded
    progress := ⟨"captured", some 100⟩
    result := some (.ephemeral entry.expiresAt)
    error := none
    finishedAt := some entry.capturedAt }

/-! ### Failures -/

def maxControllerFailures : ℕ := 5

/-- May the call be repeated after this exception? -/
def ControllerException.retryable : ControllerException → Bool
  | .error _ (some code) => !(400 ≤ code && code < 500 && code != 408 && code != 429)
  | _ => true

def failOperation (o : RuntimeOperation) (error : OperationError) (now : Time) :
    RuntimeOperation :=
  { o.released with
    status := .failed
    error := some error
    progress := ⟨"failed", some 100⟩
    finishedAt := some now }

def failDeployment (d : RuntimeDeployment) (detail : String) (clock : Time) : RuntimeDeployment :=
  { d.failedWith detail with
    revision := d.revision + 1
    updatedAt := clock }

/-- The operation that `_record_controller_failure` puts back into the queue. -/
def retryOperation (o : RuntimeOperation) (now : Time) : RuntimeOperation :=
  { o.released with
    controllerFailures := o.controllerFailures + 1
    status := .queued
    progress := ⟨"retrying", none⟩
    nextAttemptAt := some (now + seconds (min (2 ^ o.attempts) 60)) }

/-- `_record_controller_failure` on the locked rows, once the lease token has been checked. -/
def controllerFailure (o : RuntimeOperation) (d : RuntimeDeployment) (e : ControllerException)
    (now clock : Time) : RuntimeOperation × RuntimeDeployment :=
  if e.retryable ∧ o.controllerFailures + 1 < maxControllerFailures then (retryOperation o now, d)
  else
    let detail := take 500 e.message
    (failOperation { o with controllerFailures := o.controllerFailures + 1 }
        ⟨"runtime_controller_error", detail, e.retryable⟩ now,
      if o.isLog then d else failDeployment d detail clock)

/-- `_record_unexpected_failure` on the locked rows, once the lease token has been checked. -/
def unexpectedFailure (o : RuntimeOperation) (d : RuntimeDeployment) (now clock : Time) :
    RuntimeOperation × RuntimeDeployment :=
  let detail := "The runtime worker failed unexpectedly."
  (failOperation o ⟨"runtime_worker_error", detail, true⟩ now,
    if o.isLog then d else failDeployment d detail clock)

/-! ### Sessions -/

/-- Where a worker is in the processing of the operation it claimed. -/
inductive Phase
  /-- The claim is committed; the operation is not loaded yet. -/
  | claimed
  /-- The controller has been called. -/
  | calling (l : Loaded) (call : Call)
  /-- The controller has been asked for a log. -/
  | capturing (l : Loaded) (component : String) (tail sinceSeconds : ℕ)
  /-- `_record_snapshot` is about to lock the operation. -/
  | recording (l : Loaded) (s : RuntimeSnapshot)
  /-- `_complete_logs` is about to write the cache. -/
  | caching (entry : LogEntry)
  /-- The cache is written; `_complete_logs` is about to lock the operation. -/
  | completing (entry : LogEntry)
  /-- `_record_controller_failure` or `_record_unexpected_failure` is about to lock it. -/
  | failing (e : WorkerException)
  /-- The worker has left the operation, or died. -/
  | done
  deriving DecidableEq

/-- One pass of `process_next`, from its claim on. -/
structure Session where
  operation : Uuid
  phase : Phase
  deriving DecidableEq

/-- Where `_execute` gets to before it waits for the controller. -/
def executing (l : Loaded) : Phase :=
  if l.operation.isLog then
    match l.operation.payload.component, l.operation.payload.tailLines,
      l.operation.payload.sinceSeconds with
    | some component, some tail, some sinceSeconds => .capturing l component tail sinceSeconds
    | _, _, _ => .failing .unexpected
  else match dispatch l with
    | .ok call => .calling l call
    | .error e => .failing (.controller e)

/-- Is this the answer that makes `_execute` repeat the removal? -/
def removalLost (l : Loaded) : Call → ControllerException → Bool
  | .status _, .error _ (some 404) => l.operation.operationType == .undeploy
  | _, _ => false

/-- Where an answer of the controller leads. -/
def received (now : Time) (answer : Except ControllerException Json) : Phase → Phase
  | .calling l call => match call.snapshot answer with
    | .ok s => .recording l s
    | .error e =>
      if removalLost l call e then .calling l (.undeploy (removalId l) (controllerPayload l))
      else .failing (.controller e)
  | .capturing l component tail sinceSeconds =>
    match (do
      logRequest component tail sinceSeconds
      let _ ← identifier l.deployment.controllerId
      logs (← decoded answer) tail) with
    | .ok logs => .caching (logEntry component l.environment.capabilities logs now)
    | .error e => .failing (.controller e)
  | phase => phase

/-- Where an unexpected exception leads: `process_next` catches those of `_execute` only. -/
def raised : Phase → Phase
  | .calling _ _ | .capturing _ _ _ _ | .recording _ _ | .caching _ | .completing _ =>
    .failing .unexpected
  | _ => .done

/-! ### What the transactions write -/

/-- The part of an operation that is fixed when it is requested. -/
structure Order where
  deployment : Uuid
  operationType : OperationType
  payload : Payload
  idempotencyKey : String
  requestHash : String
  targetGeneration : ℕ
  actor : Option ℕ
  actorLabel : String
  requestedAt : Time

def RuntimeOperation.order (o : RuntimeOperation) : Order :=
  ⟨o.deployment, o.operationType, o.payload, o.idempotencyKey, o.requestHash, o.targetGeneration,
    o.actor, o.actorLabel, o.requestedAt⟩

section Rows

variable {loaded o o' : RuntimeOperation} {d d' : RuntimeDeployment} {s : RuntimeSnapshot}
  {now clock : Time}

theorem deployment_of_order (h : o'.order = o.order) : o'.deployment = o.deployment :=
  congrArg Order.deployment h

theorem operationType_of_order (h : o'.order = o.order) : o'.operationType = o.operationType :=
  congrArg Order.operationType h

theorem payload_of_order (h : o'.order = o.order) : o'.payload = o.payload :=
  congrArg Order.payload h

theorem targetGeneration_of_order (h : o'.order = o.order) :
    o'.targetGeneration = o.targetGeneration :=
  congrArg Order.targetGeneration h

theorem terminalStateError_eq_empty : terminalStateError o d s = "" ↔
    s.state = .failed ∨ s.state = .unknown ∨ s.state ∈ expectedStates (desiredStateOf o d) := by
  unfold terminalStateError
  by_cases hf : s.state = .failed ∨ s.state = .unknown
  · rw [if_pos hf, ← or_assoc]
    exact iff_of_true rfl (.inl hf)
  · rw [if_neg hf, ← or_assoc]
    by_cases he : s.state ∈ expectedStates (desiredStateOf o d)
    · exact iff_of_true (if_pos he) (.inr he)
    · refine iff_of_false (fun h => ?_) (not_or.2 ⟨hf, he⟩)
      simp only [if_neg he, String.append_eq_empty_iff] at h
      exact absurd h.2 (by decide)

theorem validateSnapshotGeneration_eq_ok {n : ℕ} {u : Unit} :
    validateSnapshotGeneration d s n = .ok u ↔
      s.observedGeneration ≤ n ∧ d.observedGeneration ≤ s.observedGeneration := by
  simp [validateSnapshotGeneration, bind_eq_ok, ensure_eq_ok]

/-- A report of a state other than `failed` and `unknown` that ends the wait has the target
generation. -/
theorem observedGeneration_of_caughtUp (hle : s.observedGeneration ≤ o.targetGeneration)
    (caughtUp : awaits o s = false) (hfailed : s.state ≠ .failed) (hunknown : s.state ≠ .unknown) :
    s.observedGeneration = o.targetGeneration := by
  simp only [awaits, hfailed, hunknown, Bool.and_eq_false_iff, decide_eq_false_iff_not, not_lt,
    bne_eq_false_iff_eq, or_false] at caughtUp
  exact le_antisymm hle caughtUp

theorem ne_of_expected {state : ObservedState} {desired : DesiredState}
    (h : state ∈ expectedStates desired) : state ≠ .failed ∧ state ≠ .unknown := by
  constructor <;> rintro rfl <;> cases desired <;> simp [expectedStates] at h

/-- The five ways in which `_record_snapshot` ends without an exception. -/
inductive Recorded (loaded o : RuntimeOperation) (d : RuntimeDeployment) (s : RuntimeSnapshot)
    (now clock : Time) : RuntimeOperation → RuntimeDeployment → Prop
  | waiting : Recorded loaded o d s now clock (o.waiting s now) (d.observing s now clock)
  | timedOut : Recorded loaded o d s now clock (o.timedOut now)
      ((d.observing s now clock).failedWith "Runtime reconciliation timed out.")
  | unwanted {detail : String} (steady : s.state.transitional = false)
      (caughtUp : awaits o s = false) (wrong : s.state ∉ expectedStates (desiredStateOf loaded d)) :
      Recorded loaded o d s now clock (o.reconciliationFailed s detail now)
        ((applySnapshot d s now clock).failedWith detail)
  | failed {detail : String} (failed : s.state = .failed ∨ s.state = .unknown) :
      Recorded loaded o d s now clock (o.reconciliationFailed s detail now)
        (applySnapshot d s now clock)
  | succeeded (caughtUp : awaits o s = false)
      (wanted : s.state ∈ expectedStates (desiredStateOf loaded d)) :
      Recorded loaded o d s now clock (o.reconciled s now) (applySnapshot d s now clock)

/-- **Recording.** A recorded snapshot has a generation between the observed and the requested one
and passes the component checks, and it ends in one of the ways of `Recorded`. -/
theorem recorded_of_recordSnapshot (h : recordSnapshot loaded o d s now clock = .ok (o', d')) :
    s.observedGeneration ≤ o.targetGeneration ∧ d.observedGeneration ≤ s.observedGeneration ∧
      checkComponents d.components s = .ok () ∧ Recorded loaded o d s now clock o' d' := by
  unfold recordSnapshot at h
  split_ifs at h with hwait
  · obtain ⟨_, hgen, h⟩ := bind_eq_ok.1 h
    obtain ⟨_, hcomp, h⟩ := bind_eq_ok.1 h
    obtain ⟨hle, hge⟩ := validateSnapshotGeneration_eq_ok.1 hgen
    refine ⟨hle, hge, hcomp, ?_⟩
    simp only at h
    split_ifs at h
    · cases h; exact .timedOut
    · cases h; exact .waiting
  · obtain ⟨_, hgen, h⟩ := bind_eq_ok.1 h
    obtain ⟨_, hcomp, h⟩ := bind_eq_ok.1 h
    obtain ⟨hle, hge⟩ := validateSnapshotGeneration_eq_ok.1 hgen
    refine ⟨hle, hge, hcomp, ?_⟩
    simp only [not_or, Bool.not_eq_true] at hwait
    have hdesired : desiredStateOf loaded (applySnapshot d s now clock) = desiredStateOf loaded d :=
      rfl
    simp only at h
    split_ifs at h with herr hfail hmessage
    · cases h
      rw [Ne, terminalStateError_eq_empty, hdesired, not_or, not_or] at herr
      exact .unwanted hwait.1 hwait.2 herr.2.2
    · cases h; exact .failed hfail
    · cases h; exact .failed hfail
    · cases h
      rw [Ne, not_not, terminalStateError_eq_empty, hdesired, ← or_assoc] at herr
      exact .succeeded hwait.2 (herr.resolve_left hfail)

theorem Recorded.leaseToken (h : Recorded loaded o d s now clock o' d') : o'.leaseToken = none := by
  cases h <;> rfl

theorem Recorded.order (h : Recorded loaded o d s now clock o' d') : o'.order = o.order := by
  cases h <;> rfl

end Rows

end ArchiDeal.Hosting
