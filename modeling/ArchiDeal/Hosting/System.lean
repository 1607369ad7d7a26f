import ArchiDeal.Hosting.Views
import ArchiDeal.Hosting.Worker

/-!
# The runtime as a transition system

Any number of requests and workers run side by side on one database and one cache. A step is one
transaction, one cache access, or one event outside the database (an answer of the controller, the
death of a process); its label carries what the environment chooses: instants, fresh identifiers,
answers.

A transaction that holds its row locks is one step, placed at its commit. A request takes two
steps for its transaction: between the locked look for a replay (`enter`) and the rest (`transact`)
requests that hold other locks may commit. The locks of the source only forbid some of these
interleavings, so that every run of the source is a run here.

* `World`, `Label`: the states and the actions;
* `sessionStep`, `flightStep`: the steps of a worker and of a request;
* `step`: the step of the system.
-/

namespace ArchiDeal.Hosting

/-! ### The state -/

/-- Where a request is. -/
inductive Stage
  /-- Before the transaction. -/
  | prepared (job : Job) (hash : String)
  /-- Inside the transaction, behind the second look for a replay. -/
  | entered (job : Job) (hash : String)
  /-- The transaction is committed with these rows; the response is not built yet. -/
  | committed (job : Job) (k : Uuid) (d : RuntimeDeployment) (id : Uuid) (o : RuntimeOperation)
  | answered (r : Response)
  deriving DecidableEq

def Stage.isAnswered : Stage → Bool
  | .answered _ => true
  | _ => false

/-- A request that has reached the server. -/
structure Flight where
  request : Request
  stage : Stage
  deriving DecidableEq

/-- The state of the system. Sessions are kept under their lease tokens, so that a token is fresh
when it has no session. -/
structure World where
  clock : Time
  db : Database
  cache : Cache
  sessions : Table Uuid Session
  flights : Table ℕ Flight
  deriving DecidableEq

/-- The state before the first runtime request: the catalogue is arbitrary, the rest is empty. -/
structure World.Initial (w : World) : Prop where
  deployments : w.db.deployments = ∅
  operations : w.db.operations = ∅
  releases : w.db.releases = ∅
  cache : w.cache = ∅
  sessions : w.sessions = ∅
  flights : w.flights = ∅

/-- A change of the catalogue. -/
inductive Edit
  | application (id : ℕ) (row : HostedApplication)
  | module (id : ℕ) (row : Module)
  | environment (slug : String) (row : RuntimeEnvironment)
  /-- `publish_immutable_version` of an application. -/
  | publish (application : ℕ) (version notes source : String) (expected : Option ℕ)
  deriving DecidableEq

/-- The actions of the system. -/
inductive Label
  /-- Time passes. -/
  | tick (now : Time)
  /-- The catalogue changes. -/
  | edit (e : Edit)
  /-- A worker claims an operation, with a fresh token. -/
  | claim (worker : String) (operation token : Uuid) (now : Time)
  /-- The worker loads the operation it claimed. -/
  | load (token : Uuid)
  /-- The controller answers. -/
  | reply (token : Uuid) (answer : Except ControllerException Json)
  /-- The transaction of `_record_snapshot`. -/
  | record (token : Uuid) (now : Time)
  | cacheSet (token : Uuid)
  /-- The transaction of `_complete_logs`, with the `cache.delete` in it. -/
  | complete (token : Uuid)
  /-- The transaction of `_record_controller_failure` or `_record_unexpected_failure`. -/
  | fail (token : Uuid) (now : Time)
  /-- An exception that the source does not foresee, such as a lost connection. -/
  | raise (token : Uuid)
  /-- The worker dies. -/
  | crash (token : Uuid)
  /-- A request arrives. -/
  | begin (r : ℕ) (request : Request)
  /-- The transaction starts. -/
  | enter (r : ℕ)
  /-- The rest of the transaction; `k` and `id` are fresh keys. -/
  | transact (r : ℕ) (k id : Uuid)
  /-- The response is built. -/
  | respond (r : ℕ)
  /-- The server fails; an open transaction is rolled back. -/
  | abort (r : ℕ)
  deriving DecidableEq

/-- The token of the session that takes the step. -/
def Label.token : Label → Option Uuid
  | .load t | .reply t _ | .record t _ | .cacheSet t | .complete t | .fail t _ | .raise t
  | .crash t => some t
  | _ => none

/-- The request that takes the step. -/
def Label.flight : Label → Option ℕ
  | .begin r _ | .enter r | .transact r _ _ | .respond r | .abort r => some r
  | _ => none

/-! ### The steps -/

namespace World

/-- Move a session to a phase. -/
def setPhase (w : World) (token i : Uuid) (phase : Phase) : World :=
  { w with sessions := w.sessions.insert token ⟨i, phase⟩ }

/-- Move a request to a stage. -/
def setStage (w : World) (r : ℕ) (request : Request) (stage : Stage) : World :=
  { w with flights := w.flights.insert r ⟨request, stage⟩ }

/-- Replace the database. -/
def withDb (w : World) (db : Database) : World := { w with db := db }

end World

/-- `publish_immutable_version`. An exception changes nothing, and neither does a version number
that is taken, whether the call is a replay or has other metadata. -/
def publish (engine : Engine) (db : Database) (id : ℕ) (version notes source : String)
    (expected : Option ℕ) : Option Database := do
  let app ← db.applications.lookup id
  if expected.all (· == app.revision) then
    match snapshotApplicationRuntime engine db id app with
    | .error _ => none
    | .ok snapshot =>
      if db.versions.any fun _ v => v.application == id && v.version == version then none
      else some { db with
        versions := db.versions.insert db.versions.nextKey
          ⟨id, version, notes, source, snapshot, sha256Json snapshot⟩
        applications := db.applications.insert id
          { app with currentVersion := version, revision := app.revision + 1 } }
  else none

theorem of_publish_eq_some {engine : Engine} {db db' : Database} {id : ℕ}
    {version notes source : String} {expected : Option ℕ}
    (h : publish engine db id version notes source expected = some db') :
    ∃ app snapshot, snapshotApplicationRuntime engine db id app = .ok snapshot ∧
      (db.versions.any fun _ v => v.application == id && v.version == version) = false ∧
      db' = { db with
        versions := db.versions.insert db.versions.nextKey
          ⟨id, version, notes, source, snapshot, sha256Json snapshot⟩
        applications := db.applications.insert id
          { app with currentVersion := version, revision := app.revision + 1 } } := by
  obtain ⟨app, -, h⟩ := Option.bind_eq_some_iff.1 h
  split at h
  · split at h
    · cases h
    · rename_i snapshot hsnapshot
      split at h
      · cases h
      · rename_i hfree
        cases h
        exact ⟨app, snapshot, hsnapshot, Bool.not_eq_true _ ▸ hfree, rfl⟩
  · cases h

/-- A change of the catalogue. -/
def applyEdit (engine : Engine) (db : Database) : Edit → Option Database
  | .application id row => some { db with applications := db.applications.insert id row }
  | .module id row => some { db with modules := db.modules.insert id row }
  | .environment slug row => some { db with environments := db.environments.insert slug row }
  | .publish id version notes source expected =>
    publish engine db id version notes source expected

/-- The claim of operation `i`. Which of the operations that are free comes first is left open. -/
def claimStep (w : World) (worker : String) (i token : Uuid) (now : Time) : Option World :=
  match w.db.operations.lookup i with
  | none => none
  | some o =>
    if now ≤ w.clock ∧ (w.sessions.lookup token).isNone ∧ o.claimable now then
      some ((w.withDb (w.db.saveOperation i (claimOperation worker token now o))).setPhase token i
        .claimed)
    else none

/-- A transaction of a worker that locks its operation `i`, compares the lease token, and locks the
deployment. `act` says what it writes, or where its exception leads. -/
def leased (w : World) (token i : Uuid) (phase : Phase)
    (act : RuntimeOperation → RuntimeDeployment →
      Except Phase (RuntimeOperation × RuntimeDeployment)) : World :=
  match w.db.operations.lookup i with
  | none => w.setPhase token i (raised phase)
  | some o =>
    if o.leaseToken ≠ some token then w.setPhase token i .done
    else match w.db.deployments.lookup o.deployment with
      | none => w.setPhase token i (raised phase)
      | some d => match act o d with
        | .error phase => w.setPhase token i phase
        | .ok (o', d') =>
          (w.withDb ((w.db.saveDeployment o.deployment d').saveOperation i o')).setPhase token i
            .done

/-- Does another deployment have this controller identifier? -/
def Database.controllerIdTaken (db : Database) (k : Uuid) (controllerId : String) : Bool :=
  controllerId != "" && db.deployments.any fun j d => j != k && d.controllerId == controllerId

/-- What the transaction of `_record_snapshot` writes. -/
def recordAct (w : World) (l : Loaded) (s : RuntimeSnapshot) (now : Time) (o : RuntimeOperation)
    (d : RuntimeDeployment) : Except Phase (RuntimeOperation × RuntimeDeployment) :=
  match recordSnapshot l.operation o d s now w.clock with
  | .error e => .error (.failing (.controller e))
  | .ok rows =>
    if w.db.controllerIdTaken o.deployment s.controllerId then .error (.failing .unexpected)
    else .ok rows

/-- What the transactions of the failure exits write. -/
def failAct (w : World) (e : WorkerException) (now : Time) (o : RuntimeOperation)
    (d : RuntimeDeployment) : Except Phase (RuntimeOperation × RuntimeDeployment) :=
  match e with
  | .controller e => .ok (controllerFailure o d e now w.clock)
  | .unexpected => .ok (unexpectedFailure o d now w.clock)

/-- The transaction of `_complete_logs`. The row stays locked between the comparison and
`cache.delete`, so that both are one step. -/
def completeStep (w : World) (token i : Uuid) (entry : LogEntry) : World :=
  match w.db.operations.lookup i with
  | none => w.setPhase token i (.failing .unexpected)
  | some o =>
    if o.leaseToken ≠ some token then
      { w.setPhase token i .done with cache := w.cache.erase i }
    else (w.withDb (w.db.saveOperation i (completeLogs o entry))).setPhase token i .done

def sessionStep (w : World) (token : Uuid) (l : Label) (session : Session) : Option World :=
  let i := session.operation
  match l, session.phase with
  | .load _, .claimed =>
    some (w.setPhase token i ((w.db.load i).elim .done executing))
  | .reply _ answer, .calling loaded call =>
    some (w.setPhase token i (received w.clock answer (.calling loaded call)))
  | .reply _ answer, .capturing loaded component tail sinceSeconds =>
    some (w.setPhase token i
      (received w.clock answer (.capturing loaded component tail sinceSeconds)))
  | .record _ now, .recording loaded s =>
    if now ≤ w.clock then
      some (leased w token i (.recording loaded s) (recordAct w loaded s now))
    else none
  | .cacheSet _, .caching entry =>
    some { w.setPhase token i (.completing entry) with
      cache := w.cache.insert i (entry, w.clock + logTtl) }
  | .complete _, .completing entry => some (completeStep w token i entry)
  | .fail _ now, .failing e =>
    if now ≤ w.clock then some (leased w token i (.failing e) (failAct w e now)) else none
  | .raise _, phase => some (w.setPhase token i (raised phase))
  | .crash _, _ => some (w.setPhase token i .done)
  | _, _ => none

/-- The transaction of request `r`. -/
def transactStep (settings : Settings) (w : World) (r : ℕ) (req : Request) (job : Job)
    (hash : String) (k id : Uuid) : Option World :=
  if (w.db.deployments.lookup k).isNone ∧ (w.db.operations.lookup id).isNone then
    match transact settings w.db req hash k id w.clock job with
    | .raised response => some (w.setStage r req (.answered response))
    | .returned db response => some ((w.withDb db).setStage r req (.answered response))
    | .accepted db =>
      match db.deployments.lookup (job.target k), db.operations.lookup id with
      | some d, some o =>
        some ((w.withDb db).setStage r req (.committed job (job.target k) d id o))
      | _, _ => none
  else none

/-- A step of request `r`. -/
def flightStep (settings : Settings) (w : World) (r : ℕ) (l : Label) (flight : Flight) :
    Option World :=
  let req := flight.request
  match l, flight.stage with
  | .enter _, .prepared job hash =>
    some (w.setStage r req (match lockedReplay w.db req job hash with
      | some response => .answered response
      | none => .entered job hash))
  | .transact _ k id, .entered job hash => transactStep settings w r req job hash k id
  | .respond _, .committed job k d id o =>
    some (w.setStage r req (.answered (respond w.db req k d id o job)))
  | .abort _, .answered _ => none
  | .abort _, _ => some (w.setStage r req (.answered .serverError))
  | _, _ => none

def step (settings : Settings) (w : World) (l : Label) : Option World :=
  match l with
  | .tick now => if w.clock ≤ now then some { w with clock := now } else none
  | .edit e => (applyEdit settings.engine w.db e).map w.withDb
  | .claim worker i token now => claimStep w worker i token now
  | .load token | .reply token _ | .record token _ | .cacheSet token | .complete token
  | .fail token _ | .raise token | .crash token =>
    (w.sessions.lookup token).bind (sessionStep w token l)
  | .begin r req =>
    if (w.flights.lookup r).isNone then
      some (w.setStage r req (match prepare settings w.db req with
        | .error response => .answered response
        | .ok (job, hash) => .prepared job hash))
    else none
  | .enter r | .transact r _ _ | .respond r | .abort r =>
    (w.flights.lookup r).bind (flightStep settings w r l)

end ArchiDeal.Hosting
