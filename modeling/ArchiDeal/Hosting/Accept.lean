import ArchiDeal.Hosting.Views

/-!
# Accepted requests

What a transaction of `RuntimeDeploymentViewSet` has checked and written when it accepts its
request. `Asked` says it once for all five handlers: a new operation is inserted, and beside it a
new deployment (`create`), a new generation of an existing one (`Requested`), or nothing (`logs`).
-/

namespace ArchiDeal.Hosting

/-! ### The parts of a handler -/

variable {settings : Settings} {db db' : Database} {req : Request} {hash : String} {k id : Uuid}
  {now : Time}

theorem createOperation_eq_ok {o : RuntimeOperation} :
    createOperation db id o = .ok db' ↔ db.operationConflict o = false ∧
      db' = db.saveOperation id o := by
  unfold createOperation
  cases db.operationConflict o <;> simp [eq_comm]

theorem Database.operationConflict_congr (h : db'.operations = db.operations)
    (o : RuntimeOperation) : db'.operationConflict o = db.operationConflict o := by
  simp only [operationConflict, hasOperation, h]

theorem lockedDeployment_eq_ok {d : RuntimeDeployment} {env : RuntimeEnvironment} :
    lockedDeployment db k = .ok (d, env) ↔ db.deployments.lookup k = some d ∧
      db.environments.lookup d.environment = some env := by
  unfold lockedDeployment
  cases hd : db.deployments.lookup k with
  | none => simp [throw, throwThe, MonadExceptOf.throw]
  | some d' =>
    cases he : db.environments.lookup d'.environment with
    | none =>
      simp only [throw, throwThe, MonadExceptOf.throw, he, reduceCtorEq, Option.some.injEq,
        false_iff, not_and]
      rintro rfl
      simp [he]
    | some env' =>
      simp only [he, pure_eq_ok, Prod.mk.injEq, Option.some.injEq]
      constructor
      · rintro ⟨rfl, rfl⟩
        exact ⟨rfl, he⟩
      · rintro ⟨rfl, h⟩
        exact ⟨rfl, Option.some.inj (he.symm.trans h)⟩

theorem busyResponse_eq_ok {u : Unit} :
    busyResponse db k = .ok u ↔ db.hasOperation k RuntimeOperation.mutates = false := by
  simp [busyResponse, ensure_eq_ok]

theorem validateTransition_eq_ok {d : RuntimeDeployment} {action : ActionName} {u : Unit} :
    validateTransition d action = .ok u ↔
      d.deletedAt = none ∧ d.observedState ∈ allowedStates action := by
  simp [validateTransition, bind_eq_ok, ensure_eq_ok]

/-- The slug and the image of a component, which no transaction changes. -/
def RuntimeComponent.image (c : RuntimeComponent) : String × String := (c.slug, c.imageDigest)

theorem image_scaleComponent (slug : String) (replicas : ℕ) (c : RuntimeComponent) :
    (scaleComponent slug replicas c).image = c.image := by
  unfold scaleComponent
  split_ifs <;> rfl

theorem map_image_of_syncComponentScaling {d d' : RuntimeDeployment}
    (h : syncComponentScaling d = some d') : ∃ components : List RuntimeComponent,
      d' = { d with components := components } ∧
      components.map RuntimeComponent.image = d.components.map RuntimeComponent.image := by
  obtain ⟨components, hm, h⟩ := Option.bind_eq_some_iff.1 h
  refine ⟨components, (Option.some.inj h).symm, ?_⟩
  calc components.map RuntimeComponent.image
      = d.components.filterMap (some ∘ RuntimeComponent.image) := by
        refine map_of_mapM (fun c c' hc => ?_) hm
        obtain ⟨policy, -, hc⟩ := Option.bind_eq_some_iff.1 hc
        cases hc; rfl
    _ = d.components.map RuntimeComponent.image := by rw [List.filterMap_eq_map]

/-! ### New generations -/

namespace Job

/-- The desired state that a request leaves. -/
def desired (d : DesiredState) : Job → DesiredState
  | .create _ _ _ => .running
  | .update _ _ | .logs _ _ => d
  | .destroy _ => .absent
  | .action _ body => match body.action with
    | .start => .running
    | .stop => .stopped
    | .restart | .scale => d

/-- Does the request ask for the removal? -/
def removes : Job → Bool
  | .destroy _ => true
  | _ => false

/-- The guard of a request for a new generation that depends on the state of its deployment. -/
def admits (d : RuntimeDeployment) : Job → Prop
  | .update _ _ => d.desiredState ≠ .absent
  | .destroy _ => True
  | .action _ body => d.observedState ∈ allowedStates body.action
  | .create _ _ _ | .logs _ _ => False

end Job

/-- `d'` is the new generation of the deployment `d` that `job` asks for, through an operation of
type `type`. -/
structure Requested (job : Job) (d d' : RuntimeDeployment) (type : OperationType) : Prop where
  live : d.deletedAt = none
  admits : job.admits d
  type_ne : type ≠ .logSnapshot
  undeploy : type = .undeploy ↔ job.removes = true
  desired : d'.desiredState = job.desired d.desiredState
  observed : d'.observedState = if job.removes then .deleting else .reconciling
  generation : d'.generation = d.generation + 1
  revision : d'.revision = d.revision + 1
  observedGeneration : d'.observedGeneration = d.observedGeneration
  deletedAt : d'.deletedAt = d.deletedAt
  application : d'.application = d.application
  release : d'.release = d.release
  environment : d'.environment = d.environment
  controllerId : d'.controllerId = d.controllerId
  images : d'.components.map RuntimeComponent.image = d.components.map RuntimeComponent.image

/-- The three handlers of existing deployments change at most these fields before the new
generation. -/
theorem Requested.requeued {job : Job} {d : RuntimeDeployment} {type : OperationType}
    {scaling : Scaling} {configuration secretRefs : ComponentValues}
    {components : List RuntimeComponent} (live : d.deletedAt = none) (admits : job.admits d)
    (type_ne : type ≠ .logSnapshot) (undeploy : type = .undeploy ↔ job.removes = true)
    (images : components.map RuntimeComponent.image = d.components.map RuntimeComponent.image) :
    Requested job d
      ({ d with
        desiredState := job.desired d.desiredState
        scaling := scaling
        configuration := configuration
        secretRefs := secretRefs
        components := components }.requeued (if job.removes then .deleting else .reconciling) now)
      type :=
  ⟨live, admits, type_ne, undeploy, rfl, rfl, rfl, rfl, rfl, rfl, rfl, rfl, rfl, rfl, images⟩

theorem Requested.transitional {job : Job} {d d' : RuntimeDeployment} {type : OperationType}
    (h : Requested job d d' type) : d'.observedState.transitional = true := by
  rw [h.observed]
  split_ifs <;> rfl

/-- Operations and deployments after a transaction: one operation is saved, and the row of its
deployment. -/
structure Saves (db : Database) (i : Uuid) (o : RuntimeOperation) (d : RuntimeDeployment)
    (db' : Database) : Prop where
  operations : ∀ j, db'.operations.lookup j = if j = i then some o else db.operations.lookup j
  deployments : ∀ j, db'.deployments.lookup j =
    if j = o.deployment then some d else db.deployments.lookup j

/-- A transaction that leaves the other tables alone. -/
structure Writes (db : Database) (i : Uuid) (o : RuntimeOperation) (d : RuntimeDeployment)
    (db' : Database) : Prop extends Saves db i o d db' where
  applications : db'.applications = db.applications
  modules : db'.modules = db.modules
  environments : db'.environments = db.environments
  releases : db'.releases = db.releases
  versions : db'.versions = db.versions

theorem Writes.both {i : Uuid} {o : RuntimeOperation} {d : RuntimeDeployment}
    (h : k = o.deployment) : Writes db i o d ((db.saveDeployment k d).saveOperation i o) := by
  subst h
  exact ⟨⟨fun j => by simp, fun j => by simp⟩, rfl, rfl, rfl, rfl, rfl⟩

theorem Writes.operation {i : Uuid} {o : RuntimeOperation} {d : RuntimeDeployment}
    (h : db.deployments.lookup o.deployment = some d) : Writes db i o d (db.saveOperation i o) := by
  refine ⟨⟨fun j => by simp, fun j => ?_⟩, rfl, rfl, rfl, rfl, rfl⟩
  split_ifs with hj
  · subst hj; exact h
  · rfl

theorem Saves.of_eq {db₀ : Database} {i : Uuid} {o : RuntimeOperation} {d : RuntimeDeployment}
    (h : Saves db₀ i o d db') (ho : db₀.operations = db.operations)
    (hd : db₀.deployments = db.deployments) : Saves db i o d db' :=
  ⟨fun j => ho ▸ h.operations j, fun j => hd ▸ h.deployments j⟩

/-! ### The five handlers -/

/-- What the transaction of an accepted request has checked, the operation and the deployment that
it writes, and the database, with the release of a creation, into which it writes them. -/
inductive Asked (settings : Settings) (db : Database) (req : Request) (hash : String) (k : Uuid)
    (now : Time) : Job → RuntimeOperation → RuntimeDeployment → Database → Prop
  | create {body : CreateBody} {version : String} {env : RuntimeEnvironment}
      {app : HostedApplication} {db₁ : Database} {release : ℕ × RuntimeRelease}
      {scaling : Scaling} {configuration secretRefs : ComponentValues}
      {components : List RuntimeComponent}
      (checks : createChecks db req body = .ok app)
      (released : runtimeReleaseFor settings.engine db body.applicationId app version env =
        (.ok release, db₁))
      (values : validateCreateValues body release.2.manifest env =
        .ok (scaling, configuration, secretRefs))
      (built : createComponents release.2.manifest scaling = some components)
      (nodup : (components.map RuntimeComponent.slug).Nodup)
      (stored : storable settings.engine configuration = true) :
      Asked settings db req hash k now (.create body version env)
        (newOperation req k
          (newDeployment req body release.1 scaling configuration secretRefs components now)
          .deploy hash {} now)
        (newDeployment req body release.1 scaling configuration secretRefs components now) db₁
  | request {job : Job} {d d' : RuntimeDeployment} {type : OperationType} {payload : Payload}
      (found : db.deployments.lookup (job.target k) = some d)
      (current : revisionPrecondition req d.revision "deployment" = .ok ())
      (idle : db.hasOperation (job.target k) RuntimeOperation.mutates = false)
      (requested : Requested job d d' type) :
      Asked settings db req hash k now job
        (newOperation req (job.target k) d' type hash payload now) d' db
  | logs {k' : Uuid} {body : LogBody} {d : RuntimeDeployment} {payload : Payload}
      (found : db.deployments.lookup k' = some d)
      (current : revisionPrecondition req d.revision "deployment" = .ok ())
      (idle : db.hasOperation k' RuntimeOperation.captures = false) :
      Asked settings db req hash k now (.logs k' body)
        (newOperation req k' d .logSnapshot hash payload now) d db

section Handlers

variable {fields : UpdateFields} {body : ActionBody} {log : LogBody} {k₀ : Uuid}

theorem asked_of_updateTx (h : updateTx settings db req hash k fields id now = .ok db') :
    ∃ o d, Asked settings db req hash k₀ now (.update k fields) o d db ∧
      db.operationConflict o = false ∧ Writes db id o d db' := by
  obtain ⟨⟨d, env⟩, hl, h⟩ := bind_eq_ok.1 h
  obtain ⟨_, hrev, h⟩ := bind_eq_ok.1 h
  obtain ⟨_, henv, h⟩ := bind_eq_ok.1 h
  obtain ⟨_, hbusy, h⟩ := bind_eq_ok.1 h
  obtain ⟨_, hlive, h⟩ := bind_eq_ok.1 h
  obtain ⟨_, hdes, h⟩ := bind_eq_ok.1 h
  obtain ⟨_, hst, h⟩ := bind_eq_ok.1 h
  split at h
  · cases h
  rename_i d' hsync
  obtain ⟨hconf, rfl⟩ := createOperation_eq_ok.1 h
  obtain ⟨hd, -⟩ := lockedDeployment_eq_ok.1 hl
  obtain ⟨components, rfl, himg⟩ := map_image_of_syncComponentScaling hsync
  refine ⟨_, _, .request hd hrev (busyResponse_eq_ok.1 hbusy) (.requeued ?_ ?_ ?_ ?_ himg), hconf,
    Writes.both rfl⟩
  · simpa using ensure_eq_ok.1 hlive
  · simpa [Job.admits] using ensure_eq_ok.1 hdes
  · split_ifs <;> simp
  · split_ifs <;> simp [Job.removes]

theorem asked_of_destroyTx (h : destroyTx db req hash k id now = .ok db') :
    ∃ o d, Asked settings db req hash k₀ now (.destroy k) o d db ∧
      db.operationConflict o = false ∧ Writes db id o d db' := by
  obtain ⟨⟨d, env⟩, hl, h⟩ := bind_eq_ok.1 h
  obtain ⟨_, hrev, h⟩ := bind_eq_ok.1 h
  obtain ⟨_, hbusy, h⟩ := bind_eq_ok.1 h
  obtain ⟨_, hlive, h⟩ := bind_eq_ok.1 h
  obtain ⟨hconf, rfl⟩ := createOperation_eq_ok.1 h
  obtain ⟨hd, -⟩ := lockedDeployment_eq_ok.1 hl
  refine ⟨_, _, .request hd hrev (busyResponse_eq_ok.1 hbusy)
    (.requeued ?_ trivial ?_ ?_ rfl), hconf, Writes.both rfl⟩
  · simpa using ensure_eq_ok.1 hlive
  · simp
  · simp [Job.removes]

/-- An action changes the desired state, or the scaling and the numbers of replicas. -/
theorem applyAction_eq_ok {d d' : RuntimeDeployment} {env : RuntimeEnvironment} {payload : Payload}
    (h : applyAction db d env body = .ok (d', payload)) :
    ∃ (scaling : Scaling) (components : List RuntimeComponent),
      d' = { d with
        desiredState := (Job.action k body).desired d.desiredState
        scaling := scaling
        components := components } ∧
      components.map RuntimeComponent.image = d.components.map RuntimeComponent.image := by
  unfold applyAction at h
  split at h
  case h_1 ha => cases h; exact ⟨d.scaling, d.components, by simp [Job.desired, ha], rfl⟩
  case h_2 ha => cases h; exact ⟨d.scaling, d.components, by simp [Job.desired, ha], rfl⟩
  case h_3 ha => cases h; exact ⟨d.scaling, d.components, by simp [Job.desired, ha], rfl⟩
  case h_4 ha =>
    split at h
    · rename_i slug replicas release _ _ _
      obtain ⟨_, -, h⟩ := bind_eq_ok.1 h
      obtain ⟨scaling, -, h⟩ := bind_eq_ok.1 h
      cases h
      refine ⟨scaling, d.components.map (scaleComponent slug replicas), ?_, ?_⟩
      · simp [Job.desired, ha]
      · rw [List.map_map]
        exact List.map_congr_left fun c _ => image_scaleComponent slug replicas c
    · cases h

theorem asked_of_actionTx (h : actionTx db req hash k body id now = .ok db') :
    ∃ o d, Asked settings db req hash k₀ now (.action k body) o d db ∧
      db.operationConflict o = false ∧ Writes db id o d db' := by
  obtain ⟨⟨d, env⟩, hl, h⟩ := bind_eq_ok.1 h
  obtain ⟨_, hrev, h⟩ := bind_eq_ok.1 h
  obtain ⟨_, henv, h⟩ := bind_eq_ok.1 h
  obtain ⟨_, hbusy, h⟩ := bind_eq_ok.1 h
  obtain ⟨_, hcap, h⟩ := bind_eq_ok.1 h
  obtain ⟨_, htr, h⟩ := bind_eq_ok.1 h
  obtain ⟨_, hid, h⟩ := bind_eq_ok.1 h
  obtain ⟨⟨d', payload⟩, hact, h⟩ := bind_eq_ok.1 h
  obtain ⟨hconf, rfl⟩ := createOperation_eq_ok.1 h
  obtain ⟨hd, -⟩ := lockedDeployment_eq_ok.1 hl
  obtain ⟨hlive, hstate⟩ := validateTransition_eq_ok.1 htr
  obtain ⟨scaling, components, rfl, himg⟩ := applyAction_eq_ok (k := k) hact
  have htype : ∀ a : ActionName,
      a.operationType ≠ .logSnapshot ∧ a.operationType ≠ .undeploy := by
    intro a
    cases a <;> simp [ActionName.operationType]
  refine ⟨_, _, .request hd hrev (busyResponse_eq_ok.1 hbusy) (.requeued hlive hstate ?_ ?_ himg),
    hconf, Writes.both rfl⟩
  · split_ifs
    · simp
    · exact (htype _).1
  · split_ifs
    · simp [Job.removes]
    · simpa [Job.removes] using (htype _).2

theorem asked_of_logsTx (h : logsTx db req hash k log id now = .ok db') :
    ∃ o d, Asked settings db req hash k₀ now (.logs k log) o d db ∧
      db.operationConflict o = false ∧ Writes db id o d db' := by
  obtain ⟨⟨d, env⟩, hl, h⟩ := bind_eq_ok.1 h
  obtain ⟨_, hrev, h⟩ := bind_eq_ok.1 h
  obtain ⟨_, henv, h⟩ := bind_eq_ok.1 h
  obtain ⟨_, hidle, h⟩ := bind_eq_ok.1 h
  obtain ⟨_, hid, h⟩ := bind_eq_ok.1 h
  obtain ⟨_, hstate, h⟩ := bind_eq_ok.1 h
  obtain ⟨_, hcomp, h⟩ := bind_eq_ok.1 h
  obtain ⟨_, hlim, h⟩ := bind_eq_ok.1 h
  obtain ⟨hconf, rfl⟩ := createOperation_eq_ok.1 h
  obtain ⟨hd, -⟩ := lockedDeployment_eq_ok.1 hl
  exact ⟨_, d, .logs hd hrev (by simpa using ensure_eq_ok.1 hidle), hconf, Writes.operation hd⟩

end Handlers

/-! ### Creation -/

/-- Every release belongs to a version. -/
def Database.Versioned (db : Database) : Prop :=
  ∀ n r, db.releases.lookup n = some r → ∃ v, db.versions.lookup r.applicationVersion = some v

/-- Releases are kept, and so are versions with their numbers. -/
structure Keeps (db db' : Database) : Prop where
  releases : ∀ i r, db.releases.lookup i = some r → db'.releases.lookup i = some r
  versions : ∀ i v, db.versions.lookup i = some v → ∃ v', db'.versions.lookup i = some v' ∧
    v'.application = v.application ∧ v'.version = v.version
  versioned : db.Versioned → db'.Versioned

/-- What `runtime_release_for` may write: it keeps every release and every version number, and
touches nothing else. -/
structure Released (db db' : Database) : Prop extends Keeps db db' where
  applications : db'.applications = db.applications
  modules : db'.modules = db.modules
  environments : db'.environments = db.environments
  deployments : db'.deployments = db.deployments
  operations : db'.operations = db.operations

theorem Keeps.of_eq (hr : db'.releases = db.releases) (hv : db'.versions = db.versions) :
    Keeps db db' := by
  refine ⟨fun i r h => hr ▸ h, fun i v h => ⟨v, hv ▸ h, rfl, rfl⟩, fun h => ?_⟩
  unfold Database.Versioned
  rw [hr, hv]
  exact h

theorem Keeps.trans {db₁ db₂ db₃ : Database} (h : Keeps db₁ db₂) (h' : Keeps db₂ db₃) :
    Keeps db₁ db₃ where
  releases i r hr := h'.releases i r (h.releases i r hr)
  versions i v hv := by
    obtain ⟨v₂, h₂, ha, hn⟩ := h.versions i v hv
    obtain ⟨v₃, h₃, ha', hn'⟩ := h'.versions i v₂ h₂
    exact ⟨v₃, h₃, ha'.trans ha, hn'.trans hn⟩
  versioned hv := h'.versioned (h.versioned hv)

theorem Keeps.of_versions (hr : db'.releases = db.releases)
    (hv : ∀ i v, db.versions.lookup i = some v → ∃ v', db'.versions.lookup i = some v' ∧
      v'.application = v.application ∧ v'.version = v.version) : Keeps db db' := by
  refine ⟨fun i r h => hr ▸ h, hv, fun hdb n r h => ?_⟩
  rw [hr] at h
  obtain ⟨v, h⟩ := hdb n r h
  obtain ⟨v', h', -⟩ := hv _ v h
  exact ⟨v', h'⟩

theorem Released.refl (db : Database) : Released db db :=
  ⟨.of_eq rfl rfl, rfl, rfl, rfl, rfl, rfl⟩

theorem Released.trans {db₁ db₂ db₃ : Database} (h : Released db₁ db₂) (h' : Released db₂ db₃) :
    Released db₁ db₃ where
  toKeeps := h.toKeeps.trans h'.toKeeps
  applications := h'.applications.trans h.applications
  modules := h'.modules.trans h.modules
  environments := h'.environments.trans h.environments
  deployments := h'.deployments.trans h.deployments
  operations := h'.operations.trans h.operations

section Release

variable {engine : Engine} {appId vid : ℕ} {app : HostedApplication} {version : String}
  {env : RuntimeEnvironment} {v : ApplicationVersion} {manifest : Json}

theorem released_materializeSnapshot {x : Except ReleaseException ApplicationVersion}
    (hv : db.versions.lookup vid = some v)
    (h : materializeSnapshot engine db appId app vid v = (x, db')) : Released db db' := by
  unfold materializeSnapshot at h
  split_ifs at h
  · split at h
    · cases h; exact .refl db
    · cases h
      refine ⟨.of_versions rfl fun i u hu => ?_, rfl, rfl, rfl, rfl, rfl⟩
      simp only [Table.lookup_insert_eq]
      split_ifs with hi
      · subst hi
        cases hv.symm.trans hu
        exact ⟨_, rfl, rfl, rfl⟩
      · exact ⟨u, hu, rfl, rfl⟩
  · cases h; exact .refl db

theorem released_createRelease {x : Except ReleaseException (ℕ × RuntimeRelease)}
    (hv : db.versions.lookup vid = some v)
    (h : createRelease db appId vid v manifest = (x, db')) : Released db db' := by
  unfold createRelease at h
  simp only at h
  split_ifs at h
  · cases h; exact .refl db
  · cases h
    refine ⟨⟨fun i r hr => ?_, fun _ v h => ⟨v, h, rfl, rfl⟩, fun hdb n r hr => ?_⟩,
      rfl, rfl, rfl, rfl, rfl⟩
    · exact Table.lookup_insert_of_new (Table.lookup_nextKey _) hr
    · rw [Table.lookup_insert_eq] at hr
      split_ifs at hr
      · cases hr; exact ⟨v, hv⟩
      · exact hdb n r hr

theorem lookup_materializeSnapshot {v' : ApplicationVersion} (hv : db.versions.lookup vid = some v)
    (h : materializeSnapshot engine db appId app vid v = (.ok v', db')) :
    db'.versions.lookup vid = some v' := by
  unfold materializeSnapshot at h
  split_ifs at h
  · split at h
    · cases h
    · cases h
      simp only [Table.lookup_insert_eq, if_true]
  · cases h; exact hv

theorem released_runtimeReleaseFor {x : Except ReleaseException (ℕ × RuntimeRelease)}
    (h : runtimeReleaseFor engine db appId app version env = (x, db')) : Released db db' := by
  unfold runtimeReleaseFor at h
  split at h
  · cases h; exact .refl db
  rename_i vid v hfind
  split at h
  · cases h; exact .refl db
  split at h
  · rename_i hmat
    cases h
    exact released_materializeSnapshot (Table.lookup_of_find hfind).1 hmat
  · rename_i hmat
    have hv := (Table.lookup_of_find hfind).1
    have hr := released_materializeSnapshot hv hmat
    split at h
    · cases h; exact hr
    · exact hr.trans (released_createRelease (lookup_materializeSnapshot hv hmat) h)

theorem lookup_runtimeReleaseFor {release : ℕ × RuntimeRelease}
    (h : runtimeReleaseFor engine db appId app version env = (.ok release, db')) :
    db'.releases.lookup release.1 = some release.2 := by
  unfold runtimeReleaseFor at h
  split at h
  · cases h
  split at h
  · rename_i hfind
    obtain ⟨hx, rfl⟩ := Prod.mk.inj h
    obtain ⟨_, -, hx⟩ := bind_eq_ok.1 hx
    obtain ⟨_, -, hx⟩ := bind_eq_ok.1 hx
    cases hx
    exact (Table.lookup_of_find hfind).1
  split at h
  · cases h
  split at h
  · cases h
  unfold createRelease at h
  simp only at h
  split_ifs at h
  · cases h
  · obtain ⟨hx, rfl⟩ := Prod.mk.inj h
    obtain ⟨_, -, rfl⟩ := map_eq_ok.1 hx
    simp only [Table.lookup_insert_eq, if_true]

end Release

theorem asked_of_createTx {body : CreateBody} {version : String} {env : RuntimeEnvironment}
    (h : createTx settings db req hash body version env k id now = .accepted db') :
    ∃ o d db₁, Asked settings db req hash k now (.create body version env) o d db₁ ∧
      db.operationConflict o = false ∧ Writes db₁ id o d db' := by
  unfold createTx at h
  split at h
  · rename_i e _
    cases e <;> cases h
  rename_i app hchecks
  split at h
  case h_1 => cases h
  case h_2 => cases h
  case h_3 => cases h
  rename_i release db₁ hrel
  have hkept := released_runtimeReleaseFor hrel
  cases hins : insertDeployment settings db₁ req hash body env release k id now with
  | error e => rw [hins] at h; cases e <;> cases h
  | ok db₂ =>
    rw [hins] at h
    cases h
    obtain ⟨⟨scaling, configuration, secretRefs⟩, hval, hins⟩ := bind_eq_ok.1 hins
    simp only at hins
    split at hins
    · cases hins
    rename_i components hcomp
    obtain ⟨_, hnodup, hins⟩ := bind_eq_ok.1 hins
    obtain ⟨_, hst, hins⟩ := bind_eq_ok.1 hins
    obtain ⟨hconf, rfl⟩ := createOperation_eq_ok.1 hins
    refine ⟨_, _, db₁, .create hchecks hrel hval hcomp (by simpa using ensure_eq_ok.1 hnodup)
      (ensure_eq_ok.1 hst), ?_, ?_⟩
    · rwa [← Database.operationConflict_congr hkept.operations]
    · exact Writes.both rfl

/-! ### All requests -/

theorem accepted_of_eq_ok {x : Except Refusal Database} (h : Outcome.of db x = .accepted db') :
    x = .ok db' := by
  rcases x with (r | r) | db₁
  · cases h
  · cases h
  · cases h; rfl

/-- **Accepted requests.** A transaction that accepts its request has made the checks of `Asked`,
broken no constraint, and written one new operation with its deployment. -/
theorem asked_of_transact {job : Job}
    (h : transact settings db req hash k id now job = .accepted db') :
    ∃ o d db₁, Asked settings db req hash k now job o d db₁ ∧ db.operationConflict o = false ∧
      Writes db₁ id o d db' := by
  cases job with
  | create body version env => exact asked_of_createTx h
  | update k' fields =>
    obtain ⟨o, d, h⟩ := asked_of_updateTx (accepted_of_eq_ok h)
    exact ⟨o, d, db, h⟩
  | destroy k' =>
    obtain ⟨o, d, h⟩ := asked_of_destroyTx (accepted_of_eq_ok h)
    exact ⟨o, d, db, h⟩
  | action k' body =>
    obtain ⟨o, d, h⟩ := asked_of_actionTx (accepted_of_eq_ok h)
    exact ⟨o, d, db, h⟩
  | logs k' body =>
    obtain ⟨o, d, h⟩ := asked_of_logsTx (accepted_of_eq_ok h)
    exact ⟨o, d, db, h⟩

/-- The database of a request before it writes its deployment: there is at most one call of
`runtime_release_for`. -/
inductive Called (db : Database) : Database → Prop
  | skip : Called db db
  | call {engine : Engine} {appId : ℕ} {app : HostedApplication} {version : String}
      {env : RuntimeEnvironment} {x : Except ReleaseException (ℕ × RuntimeRelease)} {db' : Database}
      (h : runtimeReleaseFor engine db appId app version env = (x, db')) : Called db db'

theorem Called.released (h : Called db db') : Released db db' := by
  cases h with
  | skip => exact .refl db
  | call h => exact released_runtimeReleaseFor h

theorem Asked.called {job : Job} {o : RuntimeOperation} {d : RuntimeDeployment}
    (h : Asked settings db req hash k now job o d db') : Called db db' := by
  cases h with
  | create _ released => exact .call released
  | request => exact .skip
  | logs => exact .skip

theorem eq_of_returned {x : Except Refusal Database} {response : Response}
    (h : Outcome.of db x = .returned db' response) : db' = db := by
  rcases x with (r | r) | db₁
  · cases h; rfl
  · cases h
  · cases h

/-- A request that is refused by a response writes at most a release and a snapshot. -/
theorem called_of_returned {job : Job} {response : Response}
    (h : transact settings db req hash k id now job = .returned db' response) : Called db db' := by
  cases job with
  | create body version env =>
    simp only [transact, createTx] at h
    split at h
    · rw [eq_of_returned h]; exact .skip
    split at h
    · rename_i hrel
      cases h; exact .call hrel
    · cases h
    · cases h
    · rename_i hrel
      rw [eq_of_returned h]; exact .call hrel
  | update k' fields => rw [eq_of_returned h]; exact .skip
  | destroy k' => rw [eq_of_returned h]; exact .skip
  | action k' body => rw [eq_of_returned h]; exact .skip
  | logs k' body => rw [eq_of_returned h]; exact .skip

end ArchiDeal.Hosting
