import ArchiDeal.Hosting.Idempotency

/-!
# What refused requests leave behind

A handler that returns a problem from inside `transaction.atomic()` commits what it has saved before
it. Two kinds of requests are answered with an error and have written all the same:

* a creation that freezes the runtime snapshot of its version, or stores its release, and is refused
  after that (`leftByCreate`);
* an accepted request with a filter on the observed state: the new state does not pass the filter,
  so that loading the deployment for the response fails (`Job.granted`).

The main definitions and results are:

* `handle`: a request that runs alone, and `reach_handle`, its run in the system;
* `Database.SameRows`: the rows of two databases are the same;
* `leavesTrace`: the requests of the two kinds, told from the state before them.
-/

namespace ArchiDeal.Hosting

open Transition

variable {settings : Settings} {db db' : Database} {req : Request} {hash : String} {k id : Uuid}
  {now : Time} {job : Job}

/-! ### A request that runs alone -/

/-- The four parts of a handler, one after the other. -/
def handle (settings : Settings) (db : Database) (req : Request) (k id : Uuid) (now : Time) :
    Response × Database :=
  match prepare settings db req with
  | .error r => (r, db)
  | .ok (job, hash) =>
    match lockedReplay db req job hash with
    | some r => (r, db)
    | none =>
      match transact settings db req hash k id now job with
      | .raised r => (r, db)
      | .returned db' r => (r, db')
      | .accepted db' =>
        match db'.deployments.lookup (job.target k), db'.operations.lookup id with
        | some d, some o => (respond db' req (job.target k) d id o job, db')
        | _, _ => (.serverError, db')

/-- The rows of an accepted request are there when its response is built. -/
theorem lookup_of_accepted (h : transact settings db req hash k id now job = .accepted db') :
    ∃ o d db₁, Asked settings db req hash k now job o d db₁ ∧
      db'.deployments.lookup (job.target k) = some d ∧ db'.operations.lookup id = some o := by
  obtain ⟨o, d, db₁, asked, -, writes⟩ := asked_of_transact h
  refine ⟨o, d, db₁, asked, ?_, ?_⟩
  · rw [writes.deployments, if_pos asked.deployment_eq.symm]
  · rw [writes.operations, if_pos rfl]

/-- `handle` is what the system does when only this request takes steps. -/
theorem reach_handle {w : World} {r : ℕ} (hr : w.flights.lookup r = none)
    (hk : w.db.deployments.lookup k = none) (hid : w.db.operations.lookup id = none) :
    ∃ w', Reach (step settings) (fun _ l => l.flight = some r) w w' ∧
      w'.db = (handle settings w.db req k id w.clock).2 ∧
      w'.flights.lookup r = some ⟨req, .answered (handle settings w.db req k id w.clock).1⟩ := by
  -- at each of the four steps of a flight the request may be answered
  have hbegin : step settings w (.begin r req) =
      some (w.setStage r req (match prepare settings w.db req with
        | .error response => .answered response
        | .ok (job, hash) => .prepared job hash)) :=
    if_pos (Option.isNone_iff_eq_none.2 hr)
  unfold handle
  cases hprepare : prepare settings w.db req with
  | error response =>
    rw [hprepare] at hbegin
    exact ⟨_, .single rfl hbegin, rfl, by rw [lookup_setStage, if_pos rfl]⟩
  | ok p =>
    obtain ⟨job, hash⟩ := p
    rw [hprepare] at hbegin
    set w₁ := w.setStage r req (.prepared job hash) with hw₁
    have henter : step settings w₁ (.enter r) =
        some (w₁.setStage r req (match lockedReplay w.db req job hash with
          | some response => .answered response
          | none => .entered job hash)) := by
      simp only [step, hw₁, lookup_setStage, if_pos, Option.bind_some, flightStep]
      rfl
    have hbegun : Reach (step settings) (fun _ l => l.flight = some r) w w₁ := .single rfl hbegin
    have hrun := hbegun.tail rfl henter
    simp only
    cases hreplay : lockedReplay w.db req job hash with
    | some response =>
      rw [hreplay] at hrun
      exact ⟨_, hrun, rfl, by rw [lookup_setStage, if_pos rfl]⟩
    | none =>
      rw [hreplay] at hrun
      set w₂ := w₁.setStage r req (.entered job hash) with hw₂
      have htransact : step settings w₂ (.transact r k id) =
          transactStep settings w₂ r req job hash k id := by
        simp only [step, hw₂, lookup_setStage, if_pos, Option.bind_some, flightStep]
      have hdb : w₂.db = w.db := rfl
      have hclock : w₂.clock = w.clock := rfl
      simp only [transactStep, hdb, hclock, hk, hid, Option.isNone_none, and_self, if_true]
        at htransact
      simp only
      cases houtcome : transact settings w.db req hash k id w.clock job with
      | raised response | returned db₁ response =>
        rw [houtcome] at htransact
        exact ⟨_, hrun.tail rfl htransact, rfl, by rw [lookup_setStage, if_pos rfl]⟩
      | accepted db₁ =>
        obtain ⟨o, d, -, -, hd, ho⟩ := lookup_of_accepted houtcome
        simp only [houtcome, hd, ho] at htransact ⊢
        set w₃ := (w₂.withDb db₁).setStage r req (.committed job (job.target k) d id o) with hw₃
        have hrespond : step settings w₃ (.respond r) = some (w₃.setStage r req
            (.answered (respond db₁ req (job.target k) d id o job))) := by
          simp only [step, hw₃, lookup_setStage, if_pos, Option.bind_some, flightStep]
          rfl
        exact ⟨_, (hrun.tail rfl htransact).tail rfl hrespond, rfl,
          by rw [lookup_setStage, if_pos rfl]⟩

/-! ### Before the transaction -/

theorem replay_of_prepare (h : prepare settings db req = .ok (job, hash)) :
    replay db req hash job.isLogs = none := by
  obtain ⟨⟨job', hash', revision⟩, -, h⟩ := bind_eq_ok.1 h
  obtain ⟨_, hadmission, h⟩ := bind_eq_ok.1 h
  cases h
  obtain ⟨_, hanswer, -⟩ := bind_eq_ok.1 hadmission
  unfold answerReplay at hanswer
  split at hanswer
  · cases hanswer
  · assumption

/-- A request that comes to its transaction has a key that no operation carries. -/
theorem keyHolder_of_replay {log : Bool} (h : replay db req hash log = none) :
    ∃ key, req.key = some key ∧ db.keyHolder key = none := by
  unfold replay at h
  split at h
  · cases h
  · rename_i hreplay
    unfold idempotencyReplay at hreplay
    split at hreplay
    · cases hreplay
    · rename_i key hkey
      refine ⟨key, hkey, ?_⟩
      obtain ⟨_, -, hreplay⟩ := bind_eq_ok.1 hreplay
      split at hreplay
      · assumption
      · obtain ⟨_, -, hreplay⟩ := bind_eq_ok.1 hreplay
        cases hreplay
  · split_ifs at h
    split at h <;> cases h

/-- A new operation with a free key breaks no constraint, unless it captures logs. -/
theorem operationConflict_newOperation {key : String} {d : RuntimeDeployment}
    {type : OperationType} {payload : Payload} (hkey : req.key = some key)
    (hfree : db.keyHolder key = none) (htype : type ≠ .logSnapshot) :
    db.operationConflict (newOperation req k d type hash payload now) = false := by
  have hnone : db.operations.any (fun _ p => p.idempotencyKey == key) = false :=
    Table.any_eq_false.2 (Table.find_eq_none.1 hfree)
  simp [Database.operationConflict, newOperation, hkey, hnone, RuntimeOperation.captures,
    RuntimeOperation.isLog, htype]

/-- The deployment of a request that is not a creation passes the filters of its query. -/
theorem keeps_of_draft {revision : Option ℕ} (h : draft db req = .ok (job, hash, revision))
    (hjob : ∀ body version env, job ≠ .create body version env) :
    ∃ filters d, queryset req.query = .ok filters ∧
      db.deployments.lookup (job.target k) = some d ∧ filters.keeps d = true := by
  have hobject : ∀ {pk k' d}, getObject db req.query pk = .ok (k', d) →
      ∃ filters, queryset req.query = .ok filters ∧ db.deployments.lookup k' = some d ∧
        filters.keeps d = true := by
    intro pk k' d h
    obtain ⟨filters, hfilters, h⟩ := bind_eq_ok.1 h
    repeat' split at h
    all_goals cases h
    exact ⟨filters, hfilters, by assumption, by assumption⟩
  unfold draft at h
  split at h
  · obtain ⟨_, -, h⟩ := bind_eq_ok.1 h
    obtain ⟨_, -, h⟩ := bind_eq_ok.1 h
    cases h
    exact absurd rfl (hjob _ _ _)
  · obtain ⟨⟨k', d⟩, hget, h⟩ := bind_eq_ok.1 h
    obtain ⟨_, -, h⟩ := bind_eq_ok.1 h
    obtain ⟨_, -, h⟩ := bind_eq_ok.1 h
    cases h
    obtain ⟨filters, h⟩ := hobject hget
    exact ⟨filters, d, h⟩
  · obtain ⟨⟨k', d⟩, hget, h⟩ := bind_eq_ok.1 h
    cases h
    obtain ⟨filters, h⟩ := hobject hget
    exact ⟨filters, d, h⟩
  · obtain ⟨⟨k', d⟩, hget, h⟩ := bind_eq_ok.1 h
    obtain ⟨_, -, h⟩ := bind_eq_ok.1 h
    obtain ⟨_, -, h⟩ := bind_eq_ok.1 h
    cases h
    obtain ⟨filters, h⟩ := hobject hget
    exact ⟨filters, d, h⟩
  · obtain ⟨⟨k', d⟩, hget, h⟩ := bind_eq_ok.1 h
    obtain ⟨_, -, h⟩ := bind_eq_ok.1 h
    cases h
    obtain ⟨filters, h⟩ := hobject hget
    exact ⟨filters, d, h⟩

/-- A query filters by the observed state exactly when the parameter is given. -/
theorem observedState_of_queryset {q : Query} {filters : Filters} (h : queryset q = .ok filters) :
    filters.observedState.isSome = (given q.observedState).isSome := by
  obtain ⟨_, -, h⟩ := bind_eq_ok.1 h
  obtain ⟨observedState, hstate, h⟩ := bind_eq_ok.1 h
  obtain ⟨_, -, h⟩ := bind_eq_ok.1 h
  cases h
  unfold observedStateFilter at hstate
  split at hstate
  · rename_i hgiven
    cases hstate
    rw [hgiven]
    rfl
  · rename_i hgiven
    split at hstate
    · cases hstate
      rw [hgiven]
      rfl
    · cases hstate

/-! ### Requests that are accepted -/

/-- The deployment that is locked, with its environment, passes a test. -/
def Database.lockedAny (db : Database) (k : Uuid)
    (p : RuntimeDeployment → RuntimeEnvironment → Bool) : Bool :=
  match lockedDeployment db k with
  | .ok (d, env) => p d env
  | .error _ => false

/-- The checks of `partial_update`, `destroy` and `actions` on the locked deployment. -/
def Job.granted (settings : Settings) (db : Database) (req : Request) : Job → Bool
  | .update k fields => db.lockedAny k fun d env =>
    (revisionPrecondition req d.revision "deployment").isOk && env.enabled &&
      !db.hasOperation k RuntimeOperation.mutates && d.deletedAt.isNone &&
      d.desiredState != .absent && storable settings.engine (fields.apply d).configuration &&
      (syncComponentScaling (fields.apply d)).isSome
  | .destroy k => db.lockedAny k fun d _ =>
    (revisionPrecondition req d.revision "deployment").isOk &&
      !db.hasOperation k RuntimeOperation.mutates && d.deletedAt.isNone
  | .action k body => db.lockedAny k fun d env =>
    (revisionPrecondition req d.revision "deployment").isOk && env.enabled &&
      !db.hasOperation k RuntimeOperation.mutates &&
      (validateActionCapability env body.action).isOk && (validateTransition d body.action).isOk &&
      (d.controllerId != "" || body.action == .start) && (applyAction db d env body).isOk
  | .create _ _ _ | .logs _ _ => false

section Granted

variable {key : String}

theorem isOk_createOperation {o : RuntimeOperation} :
    (createOperation db id o).isOk = !db.operationConflict o := by
  simp only [createOperation, isOk_check_bind, isOk_ensure, isOk_pure, Bool.and_true]

theorem isSome_syncComponentScaling (d : RuntimeDeployment) (state : ObservedState) (now : Time) :
    (syncComponentScaling (d.requeued state now)).isSome = (syncComponentScaling d).isSome := by
  have hbind : ∀ (x : Option (List RuntimeComponent)) (f g : List RuntimeComponent →
      RuntimeDeployment), (x.bind fun cs => some (f cs)).isSome =
        (x.bind fun cs => some (g cs)).isSome := by
    intro x f g
    cases x <;> rfl
  exact hbind _ _ _

theorem isOk_updateTx {fields : UpdateFields} (hkey : req.key = some key)
    (hfree : db.keyHolder key = none) :
    (updateTx settings db req hash k fields id now).isOk =
      (Job.update k fields).granted settings db req := by
  simp only [updateTx, Job.granted, Database.lockedAny]
  cases lockedDeployment db k with
  | error e => rfl
  | ok p =>
    obtain ⟨d, env⟩ := p
    have hsync := isSome_syncComponentScaling (fields.apply d) .reconciling now
    have hconfiguration : ((fields.apply d).requeued .reconciling now).configuration =
        (fields.apply d).configuration := rfl
    simp only [ok_bind, isOk_check_bind, isOk_ensure, environmentUnavailable, busyResponse,
      hconfiguration, ← hsync, Bool.and_assoc]
    cases hs : syncComponentScaling ((fields.apply d).requeued .reconciling now) with
    | none => simp
    | some d' =>
      have hfree' : (db.saveDeployment k d').keyHolder key = none := hfree
      rw [isOk_createOperation, operationConflict_newOperation hkey hfree' (by split_ifs <;> simp)]
      simp

theorem isOk_destroyTx (hkey : req.key = some key) (hfree : db.keyHolder key = none) :
    (destroyTx db req hash k id now).isOk = (Job.destroy k).granted settings db req := by
  simp only [destroyTx, Job.granted, Database.lockedAny]
  cases lockedDeployment db k with
  | error e => rfl
  | ok p =>
    obtain ⟨d, env⟩ := p
    simp only [ok_bind, isOk_check_bind, isOk_ensure, busyResponse, isOk_createOperation]
    rw [operationConflict_newOperation hkey (by exact hfree) (by simp)]
    simp [Bool.and_assoc]

theorem isOk_actionTx {body : ActionBody} (hkey : req.key = some key)
    (hfree : db.keyHolder key = none) :
    (actionTx db req hash k body id now).isOk = (Job.action k body).granted settings db req := by
  simp only [actionTx, Job.granted, Database.lockedAny]
  cases lockedDeployment db k with
  | error e => rfl
  | ok p =>
    obtain ⟨d, env⟩ := p
    simp only [ok_bind, isOk_check_bind, isOk_ensure, environmentUnavailable, busyResponse,
      Bool.and_assoc]
    cases applyAction db d env body with
    | error e => rfl
    | ok q =>
      have htype : ∀ a : ActionName, a.operationType ≠ .logSnapshot := by
        intro a
        cases a <;> simp [ActionName.operationType]
      obtain ⟨d', payload⟩ := q
      rw [ok_bind, isOk_createOperation, operationConflict_newOperation hkey (by exact hfree)
        (by split_ifs <;> simp [htype])]
      simp

end Granted

/-! ### Creations that are refused late -/

/-- The version with a runtime snapshot in place. -/
def ApplicationVersion.frozen (engine : Engine) (db : Database) (appId : ℕ)
    (app : HostedApplication) (v : ApplicationVersion) :
      Except ReleaseException ApplicationVersion :=
  if v.legacy then
    (snapshotApplicationRuntime engine db appId app).map fun snapshot =>
      { v with runtimeSnapshot := snapshot, runtimeSnapshotDigest := sha256Json snapshot }
  else .ok v

def ReleaseException.answered : ReleaseException → Bool
  | .notDeployable _ _ => true
  | .integrity | .other => false

/-- A creation that finds no release of its version, and is refused when it has frozen the snapshot
of the version or stored the release. -/
def leftByCreate (settings : Settings) (db : Database) (req : Request) (body : CreateBody)
    (version : String) (env : RuntimeEnvironment) : Bool :=
  match createChecks db req body,
    db.versions.find fun _ v => v.application == body.applicationId && v.version == version with
  | .ok app, some (vid, v) =>
    (db.releases.find fun _ r => r.applicationVersion == vid).isNone &&
      match v.frozen settings.engine db body.applicationId app with
      | .error _ => false
      | .ok v' => match deployableManifest v' body.applicationId env with
        | .error e => v.legacy && e.answered
        | .ok manifest =>
          !(db.releases.any fun _ r => r.manifestDigest == sha256Json manifest) &&
            !(validateCreateValues body manifest env).isOk
  | _, _ => false

/-- The rows that a request may write are the same. -/
structure Database.SameRows (db db' : Database) : Prop where
  versions : ∀ i, db'.versions.lookup i = db.versions.lookup i
  releases : ∀ i, db'.releases.lookup i = db.releases.lookup i
  deployments : ∀ i, db'.deployments.lookup i = db.deployments.lookup i
  operations : ∀ i, db'.operations.lookup i = db.operations.lookup i

theorem Database.SameRows.refl (db : Database) : db.SameRows db :=
  ⟨fun _ => rfl, fun _ => rfl, fun _ => rfl, fun _ => rfl⟩

section Create

variable {engine : Engine} {appId vid : ℕ} {app : HostedApplication} {version : String}
  {env : RuntimeEnvironment} {v v' : ApplicationVersion} {manifest : Json} {body : CreateBody}

/-- The write of a frozen snapshot. -/
def Database.freeze (db : Database) (vid : ℕ) (v v' : ApplicationVersion) : Database :=
  if v.legacy then { db with versions := db.versions.insert vid v' } else db

theorem materializeSnapshot_eq :
    materializeSnapshot engine db appId app vid v = match v.frozen engine db appId app with
      | .error e => (.error e, db)
      | .ok v' => (.ok v', db.freeze vid v v') := by
  unfold materializeSnapshot ApplicationVersion.frozen Database.freeze
  split_ifs
  · cases snapshotApplicationRuntime engine db appId app <;> rfl
  · rfl

theorem not_sameRows_freeze (hv : db.versions.lookup vid = some v) (hlegacy : v.legacy = true)
    (hfrozen : v.frozen engine db appId app = .ok v')
    (hversions : db'.versions = (db.freeze vid v v').versions) : ¬ db.SameRows db' := by
  intro hsame
  have hlookup := hsame.versions vid
  rw [hversions, Database.freeze, if_pos hlegacy, hv] at hlookup
  simp only [Table.lookup_insert_eq, if_true, Option.some.injEq] at hlookup
  rw [ApplicationVersion.frozen, if_pos hlegacy] at hfrozen
  obtain ⟨snapshot, -, rfl⟩ := map_eq_ok.1 hfrozen
  have hdigest : v.runtimeSnapshotDigest = "" := by
    simp only [ApplicationVersion.legacy, Bool.and_eq_true, beq_iff_eq] at hlegacy
    exact hlegacy.2
  have hempty : sha256Json snapshot = "" :=
    (congrArg ApplicationVersion.runtimeSnapshotDigest hlookup).trans hdigest
  have hhex := isHexDigest_sha256Json snapshot
  rw [hempty] at hhex
  revert hhex
  decide

theorem length_manifestModules {ids : List ℤ} {slugs : List String} {raw modules : List Json}
    (h : manifestModules ids slugs raw = .ok modules) : modules.length = raw.length := by
  induction raw generalizing ids slugs modules with
  | nil => cases h; rfl
  | cons r raw ih =>
    obtain ⟨_, -, h⟩ := bind_eq_ok.1 h
    obtain ⟨more, hmore, h⟩ := bind_eq_ok.1 h
    cases h
    rw [List.length_cons, List.length_cons, ih hmore]

/-- The release of a manifest that has just been built passes its check. -/
theorem validateReleaseIntegrity_of_deployable (hv : v.application = appId)
    (h : deployableManifest v appId env = .ok manifest) :
    validateReleaseIntegrity ⟨vid, manifest, sha256Json manifest⟩ v appId = .ok () := by
  obtain ⟨snapshot, -, h⟩ := bind_eq_ok.1 h
  obtain ⟨manifest', hmanifest, h⟩ := bind_eq_ok.1 h
  obtain ⟨_, -, h⟩ := bind_eq_ok.1 h
  cases h
  unfold manifestFromSnapshot at hmanifest
  simp only at hmanifest
  split at hmanifest
  · rename_i raw _
    obtain ⟨_, hcheck, hmanifest⟩ := bind_eq_ok.1 hmanifest
    obtain ⟨modules, hmodules, hmanifest⟩ := bind_eq_ok.1 hmanifest
    cases hmanifest
    have hlength := length_manifestModules hmodules
    have hcheck := ensure_eq_ok.1 hcheck
    simp only [Bool.and_eq_true] at hcheck
    have hne : modules.isEmpty = false := by
      cases modules with
      | nil =>
        rw [List.length_nil] at hlength
        simp [List.eq_nil_of_length_eq_zero hlength.symm] at hcheck
      | cons m modules => rfl
    obtain ⟨⟨⟨⟨⟨-, hobj⟩, hid⟩, hslug⟩, -⟩, -⟩ := hcheck
    simp [validateReleaseIntegrity, List.lookup_cons, hv, hne, hobj, hid, hslug]
  · cases hmanifest

theorem application_frozen (h : v.frozen engine db appId app = .ok v') :
    v'.application = v.application := by
  unfold ApplicationVersion.frozen at h
  split_ifs at h
  · obtain ⟨_, -, rfl⟩ := map_eq_ok.1 h
    rfl
  · cases h; rfl

theorem runtimeReleaseFor_of_new (engine : Engine) (app : HostedApplication)
    (env : RuntimeEnvironment)
    (hversion : (db.versions.find fun _ v => v.application == appId && v.version == version) =
      some (vid, v))
    (hrelease : (db.releases.find fun _ r => r.applicationVersion == vid) = none) :
    runtimeReleaseFor engine db appId app version env = match v.frozen engine db appId app with
      | .error e => (.error e, db)
      | .ok v' => match deployableManifest v' appId env with
        | .error e => (.error e, db.freeze vid v v')
        | .ok manifest => createRelease (db.freeze vid v v') appId vid v' manifest := by
  simp only [runtimeReleaseFor, hversion, hrelease, materializeSnapshot_eq]
  cases v.frozen engine db appId app <;> rfl

theorem releases_freeze : (db.freeze vid v v').releases = db.releases := by
  unfold Database.freeze
  split_ifs <;> rfl

theorem createRelease_of_deployable (hv : v.application = appId)
    (hmanifest : deployableManifest v appId env = .ok manifest) :
    createRelease db appId vid v manifest =
      if db.releases.any fun _ r => r.manifestDigest == sha256Json manifest then
        (.error .integrity, db)
      else
        (.ok (db.releases.nextKey, ⟨vid, manifest, sha256Json manifest⟩),
          { db with releases :=
              db.releases.insert db.releases.nextKey ⟨vid, manifest, sha256Json manifest⟩ }) := by
  simp only [createRelease, validateReleaseIntegrity_of_deployable hv hmanifest]
  rfl

theorem not_sameRows_insert {release : RuntimeRelease}
    (hreleases : db'.releases = db.releases.insert db.releases.nextKey release) :
    ¬ db.SameRows db' := by
  intro hsame
  have hlookup := hsame.releases db.releases.nextKey
  rw [hreleases, Table.lookup_insert_eq, if_pos rfl, Table.lookup_nextKey] at hlookup
  cases hlookup

theorem raises_validateCreateValues :
    Raises (fun e => ∃ r, e = .returned r) (validateCreateValues body manifest env) := by
  have hvalue : ∀ {α : Type} (x : Except String α),
      Raises (fun e => ∃ r, e = .returned r) (invalidValue x) := by
    intro α x
    cases x
    · exact raises_error ⟨_, rfl⟩
    · exact raises_ok _
  exact .bind (hvalue _) fun _ => .bind (hvalue _) fun _ => .bind (hvalue _) fun _ => raises_ok _

/-- Once the values are right, `create` gives up only by an exception. -/
theorem insertDeployment_ne_returned {release : ℕ × RuntimeRelease} {response : Response}
    (hvalues : (validateCreateValues body release.2.manifest env).isOk = true) :
    insertDeployment settings db req hash body env release k id now ≠
      .error (.returned response) := by
  have hraised : ∀ o : RuntimeOperation, ∀ db : Database,
      Raises (fun e => ∃ r, e = .raised r) (createOperation db id o) := fun o db =>
    .bind (raises_ensure _ ⟨_, rfl⟩) fun _ => raises_ok _
  obtain ⟨⟨scaling, configuration, secretRefs⟩, hvalues⟩ := isOk_iff.1 hvalues
  unfold insertDeployment
  rw [hvalues, ok_bind]
  simp only
  intro h
  split at h
  · cases h
  · have := (Raises.bind (raises_ensure _ ⟨_, rfl⟩) fun _ =>
      .bind (raises_ensure _ ⟨_, rfl⟩) fun _ => hraised _ _) _ h
    obtain ⟨_, hr⟩ := this
    cases hr

theorem createTx_of_left (hash : String) (k id : Uuid) (now : Time)
    (h : leftByCreate settings db req body version env = true) :
    ∃ db' response, createTx settings db req hash body version env k id now =
      .returned db' response ∧ ¬ db.SameRows db' := by
  unfold leftByCreate at h
  split at h
  · rename_i app vid v hchecks hversion
    obtain ⟨hlookup, hv⟩ := Table.lookup_of_find hversion
    simp only [Bool.and_eq_true, beq_iff_eq, Option.isNone_iff_eq_none] at h hv
    obtain ⟨hrelease, h⟩ := h
    split at h
    · cases h
    rename_i v' hfrozen
    have hrun := runtimeReleaseFor_of_new settings.engine app env hversion hrelease
    simp only [hfrozen] at hrun
    simp only [createTx, hchecks]
    split at h
    · -- the snapshot is frozen, and the version is not deployable
      rename_i e hmanifest
      simp only [Bool.and_eq_true] at h
      cases e with
      | notDeployable detail code =>
        simp only [hrun, hmanifest]
        exact ⟨_, _, rfl, not_sameRows_freeze hlookup h.1 hfrozen rfl⟩
      | integrity => cases h.2
      | other => cases h.2
    · -- the release is stored, and the values are not right
      rename_i manifest hmanifest
      simp only [Bool.and_eq_true, Bool.not_eq_true'] at h
      have hv' : v'.application = body.applicationId := (application_frozen hfrozen).trans hv.1
      simp only [hrun, hmanifest, createRelease_of_deployable hv' hmanifest, releases_freeze, h.1,
        if_false, Bool.false_eq_true]
      cases hvalues : validateCreateValues body manifest env with
      | ok p => rw [hvalues] at h; cases h.2
      | error e =>
        obtain ⟨response, rfl⟩ := raises_validateCreateValues e hvalues
        simp only [insertDeployment, hvalues, error_bind, Outcome.of]
        exact ⟨_, response, rfl, not_sameRows_insert rfl⟩
  · cases h

/-- Any other creation that is answered with a refusal has written nothing. -/
theorem eq_of_createTx (hleft : leftByCreate settings db req body version env = false)
    {response : Response} (h : createTx settings db req hash body version env k id now =
      .returned db' response) : db' = db := by
  unfold createTx at h
  split at h
  · exact eq_of_returned h
  rename_i app hchecks
  unfold leftByCreate at hleft
  rw [hchecks] at hleft
  -- along `runtimeReleaseFor`: the version, its release, the snapshot, the manifest
  cases hversion : db.versions.find fun _ v =>
      v.application == body.applicationId && v.version == version with
  | none =>
    simp only [runtimeReleaseFor, hversion] at h
    cases h
    rfl
  | some p =>
    obtain ⟨vid, v⟩ := p
    obtain ⟨-, hv⟩ := Table.lookup_of_find hversion
    simp only [Bool.and_eq_true, beq_iff_eq] at hv
    simp only [hversion] at hleft
    cases hrelease : db.releases.find fun _ r => r.applicationVersion == vid with
    | some q =>
      simp only [runtimeReleaseFor, hversion, hrelease] at h
      split at h
      · rename_i heq
        cases h
        exact (Prod.mk.inj heq).2.symm
      · cases h
      · cases h
      · rename_i heq
        rw [(Prod.mk.inj heq).2]
        exact eq_of_returned h
    | none =>
      -- a refusal from here on has written nothing only because `leftByCreate` is false
      have hrun := runtimeReleaseFor_of_new settings.engine app env hversion hrelease
      rw [hrun] at h
      simp only [hrelease, Option.isNone_none, Bool.true_and] at hleft
      cases hfrozen : v.frozen settings.engine db body.applicationId app with
      | error e =>
        rw [hfrozen] at h
        cases e <;> cases h
        rfl
      | ok v' =>
        have hv' : v'.application = body.applicationId := (application_frozen hfrozen).trans hv.1
        simp only [hfrozen] at h hleft
        cases hmanifest : deployableManifest v' body.applicationId env with
        | error e =>
          simp only [hmanifest] at h hleft
          cases e <;> cases h
          simp only [ReleaseException.answered, Bool.and_true] at hleft
          rw [Database.freeze, if_neg (Bool.not_eq_true _ ▸ hleft)]
        | ok manifest =>
          simp only [hmanifest, createRelease_of_deployable hv' hmanifest, releases_freeze]
            at h hleft
          cases hclash : db.releases.any fun _ r => r.manifestDigest == sha256Json manifest with
          | true =>
            simp only [hclash, if_true] at h
            cases h
          | false =>
            simp only [hclash, Bool.not_false, Bool.true_and, Bool.not_eq_false', if_false,
              Bool.false_eq_true] at h hleft
            revert h
            cases hins : insertDeployment settings _ req hash body env _ k id now with
            | ok db₁ => nofun
            | error e =>
              cases e with
              | raised r => nofun
              | returned r => exact absurd hins (insertDeployment_ne_returned hleft)

end Create

/-! ### The two kinds of requests -/

/-- The requests that are refused and leave something behind, told from the state before them. -/
def leavesTrace (settings : Settings) (db : Database) (req : Request) : Bool :=
  match prepare settings db req with
  | .error _ => false
  | .ok (.create body version env, _) => leftByCreate settings db req body version env
  | .ok (job, _) => (given req.query.observedState).isSome && job.granted settings db req

theorem handle_of_prepare (h : prepare settings db req = .ok (job, hash)) :
    handle settings db req k id now = match transact settings db req hash k id now job with
      | .raised r => (r, db)
      | .returned db' r => (r, db')
      | .accepted db' =>
        match db'.deployments.lookup (job.target k), db'.operations.lookup id with
        | some d, some o => (respond db' req (job.target k) d id o job, db')
        | _, _ => (.serverError, db') := by
  simp only [handle, h, lockedReplay, replay_of_prepare h]

theorem handle_of_accepted (h : prepare settings db req = .ok (job, hash))
    (haccepted : transact settings db req hash k id now job = .accepted db') :
    ∃ o d db₁, Asked settings db req hash k now job o d db₁ ∧
      db'.deployments.lookup (job.target k) = some d ∧
      handle settings db req k id now = (respond db' req (job.target k) d id o job, db') := by
  obtain ⟨o, d, db₁, asked, hd, ho⟩ := lookup_of_accepted haccepted
  refine ⟨o, d, db₁, asked, hd, ?_⟩
  rw [handle_of_prepare h, haccepted]
  simp only [hd, ho]

theorem not_sameRows_of_accepted (hid : db.operations.lookup id = none)
    (h : transact settings db req hash k id now job = .accepted db') : ¬ db.SameRows db' := by
  intro hsame
  obtain ⟨o, -, -, -, -, ho⟩ := lookup_of_accepted h
  have hlookup := hsame.operations id
  rw [ho, hid] at hlookup
  cases hlookup

/-- A new generation passes the filters of its query unless they ask for an observed state. -/
theorem keeps_of_requested {filters : Filters} {d d' : RuntimeDeployment} {type : OperationType}
    (h : Requested job d d' type) (hidle : d.observedState.transitional = false)
    (hkeeps : filters.keeps d = true) : filters.keeps d' = !filters.observedState.isSome := by
  have htransitional := h.transitional
  simp only [Filters.keeps, Bool.and_eq_true] at hkeeps ⊢
  obtain ⟨⟨⟨happlication, henvironment⟩, hstate⟩, hactive⟩ := hkeeps
  rw [h.application, h.environment, h.deletedAt, happlication, henvironment, hactive]
  cases hfilter : filters.observedState with
  | none => rfl
  | some state =>
    simp only [hfilter, Option.all_some, beq_iff_eq] at hstate
    have hne : state ≠ d'.observedState := by
      rintro rfl
      rw [← hstate, htransitional] at hidle
      cases hidle
    simp [hne]

/-- The response to a new generation is an error when the query asks for an observed state. -/
theorem status_of_requested (hq : db.Queue) {revision : Option ℕ}
    (hdraft : draft db req = .ok (job, hash, revision)) {o : RuntimeOperation}
    {d d' : RuntimeDeployment} {type : OperationType}
    (found : db.deployments.lookup (job.target k) = some d)
    (idle : db.hasOperation (job.target k) RuntimeOperation.mutates = false)
    (requested : Requested job d d' type)
    (hd' : db'.deployments.lookup (job.target k) = some d') :
    (respond db' req (job.target k) d' id o job).status = 202 ↔
      (given req.query.observedState).isSome = false := by
  have hadmits := requested.admits
  obtain ⟨filters, d₁, hfilters, hd₁, hkeeps⟩ := keeps_of_draft (k := k) hdraft
    (by rintro _ _ _ rfl; exact hadmits)
  cases found.symm.trans hd₁
  have hidle : d.observedState.transitional = false := by
    rw [← Bool.not_eq_true]
    intro htransitional
    obtain ⟨i, p, hp, hk, hmutates⟩ := (hq.transitional _ d found).1 htransitional
    rw [Database.hasOperation_eq_false.1 idle i p hp hk] at hmutates
    cases hmutates
  have hfresh : fresh db' req.query (job.target k) =
      if filters.observedState.isSome then .error .serverError else .ok d' := by
    simp only [fresh, hfilters, ok_bind, hd', keeps_of_requested requested hidle hkeeps]
    cases filters.observedState.isSome <;> rfl
  rw [observedState_of_queryset hfilters] at hfresh
  have hrespond : (respond db' req (job.target k) d' id o job).status =
      if (given req.query.observedState).isSome then 500 else 202 := by
    cases job with
    | create | logs => exact hadmits.elim
    | update | destroy | action =>
      simp only [respond, hfresh]
      split_ifs <;> rfl
  rw [hrespond]
  split_ifs with hgiven <;> simp [hgiven]

/-- The handlers of existing deployments leave something behind when they accept a request whose
response they cannot build. -/
theorem trace_iff_of_granted (hq : db.Queue) (hid : db.operations.lookup id = none)
    (hprepare : prepare settings db req = .ok (job, hash)) {x : Except Refusal Database}
    (htransact : transact settings db req hash k id now job = .of db x)
    (hgranted : x.isOk = job.granted settings db req) (hjob : job.isLogs = false)
    (hnew : ∀ body version env, job ≠ .create body version env) :
    ((handle settings db req k id now).1.status ≠ 202 →
      db.SameRows (handle settings db req k id now).2) ↔
    ((given req.query.observedState).isSome && job.granted settings db req) = false := by
  rcases x with (r | r) | db'
  · rw [handle_of_prepare hprepare, htransact, ← hgranted]
    simpa [Outcome.of] using fun _ => Database.SameRows.refl db
  · rw [handle_of_prepare hprepare, htransact, ← hgranted]
    simpa [Outcome.of] using fun _ => Database.SameRows.refl db
  · obtain ⟨o, d', db₁, asked, hd', hhandle⟩ := handle_of_accepted hprepare htransact
    obtain ⟨⟨_, _, revision⟩, hdraft, hrest⟩ := bind_eq_ok.1 hprepare
    obtain ⟨_, -, hrest⟩ := bind_eq_ok.1 hrest
    cases hrest
    have hstatus : (respond db' req (job.target k) d' id o job).status = 202 ↔
        (given req.query.observedState).isSome = false := by
      cases asked with
      | create => exact absurd rfl (hnew _ _ _)
      | logs => cases hjob
      | request found _ idle requested =>
        exact status_of_requested hq hdraft found idle requested hd'
    rw [hhandle, ← hgranted, isOk_ok, Bool.and_true, ← hstatus]
    constructor
    · intro h
      by_contra hne
      exact not_sameRows_of_accepted hid htransact (h hne)
    · intro h hne
      exact absurd h hne

/-- A handler whose refusals write nothing, and that answers an accepted request with 202. -/
theorem sameRows_of_refused (hprepare : prepare settings db req = .ok (job, hash))
    (hreturned : ∀ db' response,
      transact settings db req hash k id now job = .returned db' response → db' = db)
    (hrespond : ∀ db' d o, (respond db' req (job.target k) d id o job).status = 202)
    (hstatus : (handle settings db req k id now).1.status ≠ 202) :
    db.SameRows (handle settings db req k id now).2 := by
  cases houtcome : transact settings db req hash k id now job with
  | raised r =>
    rw [handle_of_prepare hprepare, houtcome]
    exact .refl db
  | returned db' r =>
    rw [handle_of_prepare hprepare, houtcome]
    simp only
    rw [hreturned db' r houtcome]
    exact .refl db
  | accepted db' =>
    obtain ⟨o, d, -, -, -, hhandle⟩ := handle_of_accepted hprepare houtcome
    rw [hhandle] at hstatus
    exact absurd (hrespond db' d o) hstatus

/-- **Refused requests leave no trace**, except those of `leavesTrace`: a creation that is refused
after it has frozen a snapshot or stored a release, and a request that is accepted and then answered
with an error because its query asks for an observed state. -/
theorem refused_without_trace_iff {w₀ w : World} (h₀ : w₀.Initial)
    (run : Reach (step settings) Free w₀ w) (hid : w.db.operations.lookup id = none) :
    ((handle settings w.db req k id now).1.status ≠ 202 →
      w.db.SameRows (handle settings w.db req k id now).2) ↔
    leavesTrace settings w.db req = false := by
  have hq := queue_of_reach h₀ run
  unfold leavesTrace
  cases hprepare : prepare settings w.db req with
  | error r => simpa [handle, hprepare] using fun _ => Database.SameRows.refl w.db
  | ok p =>
    obtain ⟨job, hash⟩ := p
    obtain ⟨key, hkey, hfree⟩ := keyHolder_of_replay (replay_of_prepare hprepare)
    cases job with
    | create body version env =>
      simp only
      cases hleft : leftByCreate settings w.db req body version env with
      | true =>
        obtain ⟨db', response, houtcome, hne⟩ :=
          createTx_of_left hash k id now hleft
        have htransact : transact settings w.db req hash k id now (.create body version env) =
            .returned db' response := houtcome
        have hrefuses := refuses_of_transact (.inr ⟨db', htransact⟩)
        rw [handle_of_prepare hprepare, htransact]
        simp only [Bool.true_eq_false, iff_false, Classical.not_imp]
        exact ⟨fun h => by simp [Response.Refuses, h] at hrefuses, hne⟩
      | false =>
        simp only [iff_true]
        exact sameRows_of_refused hprepare (fun _ _ => eq_of_createTx hleft) fun _ _ _ => rfl
    | update k' fields =>
      exact trace_iff_of_granted hq hid hprepare rfl (isOk_updateTx hkey hfree) rfl nofun
    | destroy k' =>
      exact trace_iff_of_granted hq hid hprepare rfl (isOk_destroyTx hkey hfree) rfl nofun
    | action k' body =>
      exact trace_iff_of_granted hq hid hprepare rfl (isOk_actionTx hkey hfree) rfl nofun
    | logs k' body =>
      simp only [Job.granted, Bool.and_false, iff_true]
      exact sameRows_of_refused hprepare (fun _ _ => eq_of_returned) fun _ _ _ => rfl

/-- A creation with a stale revision of its application is refused, and nothing is written. -/
theorem refused_without_trace_sample :
    (handle sampleSettings sampleDb { sampleCreate with ifMatch := some "\"2\"" } 1 2 0).1.status =
      412 ∧
    sampleDb.SameRows
      (handle sampleSettings sampleDb { sampleCreate with ifMatch := some "\"2\"" } 1 2 0).2 := by
  have hstatus : (handle sampleSettings sampleDb
      { sampleCreate with ifMatch := some "\"2\"" } 1 2 0).1.status = 412 := by
    decide +kernel
  refine ⟨hstatus, (refused_without_trace_iff initial_sampleWorld .refl rfl).2 ?_ ?_⟩
  · decide +kernel
  · exact fun h => absurd (h.symm.trans hstatus) (by decide)

/-- A version from before runtime snapshots existed, of an application without modules. -/
def legacyDb : Database :=
  { sampleDb with
    versions := (∅ : Table ℕ ApplicationVersion).insert 1 ⟨1, "1.0.0", "", "manual", .obj [], ""⟩ }

/-- The sample creation with a value for a component that the application does not have. -/
def invalidCreate : Request :=
  { sampleCreate with
    endpoint := .create (.ok { sampleBody with configuration := .obj [("web", .obj [])] }) }

/-- A creation that is refused with `release_not_deployable` freezes the runtime snapshot of its
version, and a creation that is refused for its values stores the release. -/
theorem refused_with_trace :
    (⟨0, legacyDb, ∅, ∅, ∅⟩ : World).Initial ∧ sampleWorld.Initial ∧
    (handle sampleSettings legacyDb sampleCreate 1 2 0).1.status = 409 ∧
    ¬ legacyDb.SameRows (handle sampleSettings legacyDb sampleCreate 1 2 0).2 ∧
    (handle sampleSettings sampleDb invalidCreate 1 2 0).1.status = 400 ∧
    ¬ sampleDb.SameRows (handle sampleSettings sampleDb invalidCreate 1 2 0).2 := by
  have hlegacy : (handle sampleSettings legacyDb sampleCreate 1 2 0).1.status = 409 ∧
      (handle sampleSettings legacyDb sampleCreate 1 2 0).2.versions.lookup 1 ≠
        legacyDb.versions.lookup 1 := by
    decide +kernel
  have hinvalid : (handle sampleSettings sampleDb invalidCreate 1 2 0).1.status = 400 ∧
      (handle sampleSettings sampleDb invalidCreate 1 2 0).2.releases.lookup 1 ≠
        sampleDb.releases.lookup 1 := by
    decide +kernel
  exact ⟨⟨rfl, rfl, rfl, rfl, rfl, rfl⟩, initial_sampleWorld, hlegacy.1,
    fun h => hlegacy.2 (h.versions 1), hinvalid.1, fun h => hinvalid.2 (h.releases 1)⟩

end ArchiDeal.Hosting
