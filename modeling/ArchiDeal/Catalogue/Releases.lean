import ArchiDeal.Catalogue.Etags

/-!
# Edits and releases

Updates, module changes, publications and autodiscovery runs on tools and applications, interleaved.
The handlers of applications, `publish_immutable_version` and autodiscovery hold the locks of the
rows that they write, so that each of them is one transaction. `ToolViewSet` has the generic
handlers of the framework: an update loads the row, validates the body, and saves all columns.

`releases_stay_current`: the current version and the release time of every row are those of its last
publication, in every run in which a tool update saves the release columns as they are stored.
Without the condition an update withdraws the release that was published since it has loaded the row
(`stale_update_withdraws_release`).
-/

namespace ArchiDeal.Catalogue.Releases

open Text Hosting Transition

/-! ### The property -/

/-- The release columns are those of the last published version, or the defaults. -/
def Current (currentVersion : String) (releasedAt : Option Time) (versions : List (String × Time)) :
    Prop :=
  match versions.getLast? with
  | none => currentVersion = "0.1.0" ∧ releasedAt = none
  | some (version, publishedAt) => currentVersion = version ∧ releasedAt = some publishedAt

/-- The release columns of a tool. -/
def ToolCurrent (t : Tool) : Prop :=
  Current t.currentVersion t.releasedAt (t.versions.map fun v => (v.version, v.createdAt))

/-- The release columns of an application. -/
def ApplicationCurrent (a : Application) : Prop :=
  Current a.currentVersion a.releasedAt (a.versions.map fun v => (v.version, v.createdAt))

/-- Every row has the release columns of its last publication. -/
structure AllCurrent (db : Database) : Prop where
  tools : ∀ id t, db.tools.lookup id = some t → ToolCurrent t
  applications : ∀ id a, db.applications.lookup id = some a → ApplicationCurrent a

/-! ### Tools -/

/-- `ToolViewSet.get_queryset`. -/
def toolQuery (db : Database) (params : ApplicationParams) : Query (ℕ × Tool) :=
  releaseQuery db.modules params (·.enabled) (·.modules) (·.currentVersion)

/-- What the unique checks of the serializer read of a tool. -/
def toolEntry (t : Tool) : Entry where
  name := t.name
  slug := t.slug
  description := t.description
  enabled := t.enabled
  revision := 1
  createdAt := t.createdAt
  updatedAt := t.updatedAt
  modules := t.modules
  revision_pos := Nat.one_pos

/-- `setattr` for the validated fields. -/
def Tool.assign (t : Tool) (b : EntryBody) (now : Time) : Tool :=
  { t with
    name := (b.name.map strip).getD t.name
    slug := (b.slug.map strip).getD t.slug
    description := (b.description.map strip).getD t.description
    enabled := b.enabled.getD t.enabled
    updatedAt := now }

/-! ### Requests -/

inductive Request where
  | updateApplication (params : ApplicationParams) (id : ℕ) (ifMatch : Option String) (patch : Bool)
      (body : EntryBody)
  | setMembership (params : ApplicationParams) (id : ℕ) (ifMatch : Option String) (attach : Bool)
      (moduleId : ℕ)
  | publishApplication (params : ApplicationParams) (id : ℕ) (ifMatch : Option String)
      (body : VersionBody)
  | updateTool (params : ApplicationParams) (id : ℕ) (patch : Bool) (body : EntryBody)
  | setToolMembership (params : ApplicationParams) (id : ℕ) (attach : Bool) (moduleId : ℕ)
  | publishTool (params : ApplicationParams) (id : ℕ) (body : VersionBody)
  | autoDiscover (files : Manifests)

/-- What a request has still to do. -/
inductive Task where
  | publishApplication (id : ℕ) (version : String) (metadata : String × String) (expected : ℕ)
  /-- `is_valid` of an update that has loaded the row. -/
  | validateTool (id : ℕ) (row : Tool) (patch : Bool) (body : EntryBody)
  /-- `save` of all columns of the loaded row, with the values of the body. -/
  | saveTool (id : ℕ) (row : Tool) (body : EntryBody)
  | setToolModules (id : ℕ) (ids : List ℕ)
  | changeToolModule (id : ℕ) (attach : Bool) (moduleId : ℕ)
  | publishTool (id : ℕ) (version : String) (metadata : String × String)

section Handlers

variable (env : Environment)

/-- The row of a tool in the transaction that writes it. -/
def existing (db : Database) (id : ℕ) : Handler Tool :=
  match db.tools.lookup id with
  | some t => .ok t
  | none => .error (.database .unexpected)

/-- The next statement of a request. -/
def Task.run (db : Database) (now : Time) : Task → Handler (Database × List Task)
  | .publishApplication id version metadata expected => do
    let (_, db) ← publishImmutableVersion env.engine db now id version metadata (some expected)
    return (db, [])
  | .validateTool id row patch body => do
    ensure (body.isValid 80 patch (othersIn db.tools toolEntry id) db.modules) invalidBody
    return (db, [.saveTool id row body])
  | .saveTool id row body => do
    let columns := Tool.assign row body now
    ensure (!db.tools.any fun i other =>
      i != id && (other.name == columns.name || other.slug == columns.slug)) (.database .integrity)
    -- the modules and the versions are no columns of the row; a row that is gone is inserted
    let stored := db.tools.lookup id
    let saved := { columns with
      modules := (stored.map (·.modules)).getD ∅
      versions := (stored.map (·.versions)).getD [] }
    return (db.saveTool id saved,
      (body.moduleIds.map (Task.setToolModules id)).toList)
  | .setToolModules id ids => do
    let t ← existing db id
    ensure (ids.all fun i => (db.modules.lookup i).isSome) (.database .integrity)
    return (db.saveTool id { t with modules := ids.toFinset }, [])
  | .changeToolModule id attach moduleId => do
    let t ← existing db id
    ensure (!attach || (db.modules.lookup moduleId).isSome) (.database .integrity)
    let modules := if attach then insert moduleId t.modules else t.modules.erase moduleId
    return (db.saveTool id { t with modules := modules }, [])
  | .publishTool id version metadata => do
    let t ← existing db id
    match t.publish version metadata now with
    | none => .error (versionConflict version)
    | some (saved, _) => return (db.saveTool id saved, [])

/-- A handler of one transaction. -/
def single (h : Handler (Response × Database)) : Handler (Database × List Task) :=
  h.map fun r => (r.2, [])

/-- The first statement of a request. -/
def Request.handle (user : Principal) (db : Database) (now : Time) :
    Request → Handler (Database × List Task)
  | .updateApplication params id ifMatch patch body => do
    requireStaff user
    single (Catalogue.updateApplication env.engine db now params id ifMatch patch body)
  | .setMembership params id ifMatch attach moduleId => do
    requireStaff user
    single (updateModuleMembership env.engine db now params id ifMatch attach moduleId)
  | .publishApplication params id ifMatch body => do
    requireStaff user
    let _ ← getOr404 env.engine (applicationQuery db params) db.applications id
    let expected ← expectedRevision ifMatch "application version publication"
    ensure body.isValid invalidBody
    return (db, [.publishApplication id body.normalized body.metadata expected])
  | .updateTool params id patch body => do
    requireStaff user
    let row ← getOr404 env.engine (toolQuery db params) db.tools id
    return (db, [.validateTool id row patch body])
  | .setToolMembership params id attach moduleId => do
    requireStaff user
    ensure (db.modules.lookup moduleId).isSome invalidBody
    let _ ← getOr404 env.engine (toolQuery db params) db.tools id
    return (db, [.changeToolModule id attach moduleId])
  | .publishTool params id body => do
    requireStaff user
    let _ ← getOr404 env.engine (toolQuery db params) db.tools id
    ensure body.isValid invalidBody
    return (db, [.publishTool id body.normalized body.metadata])
  | .autoDiscover files => do
    requireStaff user
    single (Catalogue.autoDiscover env.py env.engine now db files)

/-! ### Runs -/

/-- The committed rows, and the requests under way. -/
structure World where
  db : Database
  threads : List (List Task)

def World.start (db : Database) : World := ⟨db, []⟩

/-- What happens next. -/
inductive Event where
  | request (user : Principal) (now : Time) (req : Request)
  /-- The thread takes its next statement. -/
  | resume (thread : ℕ) (now : Time)

/-- One step; a request that raises has ended. -/
def step (w : World) : Event → Option World
  | .request user now req =>
    match req.handle env user w.db now with
    | .ok (db, tasks) => some ⟨db, w.threads ++ [tasks]⟩
    | .error _ => some w
  | .resume thread now =>
    match w.threads[thread]? with
    | some (task :: rest) =>
      match task.run env w.db now with
      | .ok (db, next) => some ⟨db, w.threads.set thread (next ++ rest)⟩
      | .error _ => some ⟨w.db, w.threads.set thread []⟩
    | _ => none

end Handlers

/-! ### The condition -/

/-- A tool update saves the release columns as they are stored. -/
def Task.upToDate (db : Database) : Task → Bool
  | .saveTool id row _ => (db.tools.lookup id).any fun stored =>
      row.currentVersion == stored.currentVersion && row.releasedAt == stored.releasedAt
  | _ => true

/-- No step saves outdated release columns of a tool. -/
def UpToDate (w : World) : Event → Prop
  | .request _ _ _ => True
  | .resume thread _ => ((w.threads[thread]?).bind List.head?).all (·.upToDate w.db) = true

instance (w : World) : (e : Event) → Decidable (UpToDate w e)
  | .request _ _ _ => inferInstanceAs (Decidable True)
  | .resume _ _ => inferInstanceAs (Decidable (_ = true))

/-! ### Rows -/

section Rows

variable {now : Time} {id : ℕ}

theorem current_concat (versions : List (String × Time)) (version : String) (now : Time) :
    Current version (some now) (versions ++ [(version, now)]) := by
  rw [Current, List.getLast?_concat]
  exact ⟨rfl, rfl⟩

/-- A publication leaves the tool as it is or releases its version. -/
theorem toolCurrent_publish {t t' : Tool} {version : String} {metadata : String × String}
    {created : Bool}
    (h : t.publish version metadata now = some (t', created)) (ht : ToolCurrent t) :
    ToolCurrent t' := by
  unfold Tool.publish at h
  split at h
  · split_ifs at h
    cases h
    exact ht
  · cases h
    rw [ToolCurrent, List.map_append]
    exact current_concat _ version now

theorem applicationCurrent_publish (a : Application) (v : ApplicationVersion)
    (hv : v.createdAt = now) : ApplicationCurrent (a.publish v now) := by
  rw [ApplicationCurrent, Application.publish, List.map_append]
  subst hv
  exact current_concat _ v.version v.createdAt

theorem current_insert {α : Type} {P : α → Prop} {t : Table ℕ α} {row : α}
    (ht : ∀ i a, t.lookup i = some a → P a) (hrow : P row) (i : ℕ) (a : α)
    (h : AList.lookup i (t.insert id row) = some a) : P a := by
  rw [Table.lookup_insert_eq] at h
  split_ifs at h
  · cases h
    exact hrow
  · exact ht i a h

end Rows

/-! ### Applications -/

section Applications

variable {env : Environment} {engine : Engine} {py : Conversions} {now : Time} {db db' : Database}
  {id : ℕ} {r : Response}

theorem AllCurrent.saveApplication {a : Application} (h : AllCurrent db)
    (ha : ApplicationCurrent a) : AllCurrent (db.saveApplication id a) :=
  ⟨h.tools, current_insert h.applications ha⟩

theorem AllCurrent.updateApplication {params : ApplicationParams} {ifMatch : Option String}
    {patch : Bool} {body : EntryBody} (h : AllCurrent db)
    (hupdate : updateApplication engine db now params id ifMatch patch body = .ok (r, db')) :
    AllCurrent db' := by
  obtain ⟨expected, -, hrest⟩ := bind_eq_ok.1 hupdate
  obtain ⟨a, ha, hrest⟩ := bind_eq_ok.1 hrest
  obtain ⟨_, -, hrest⟩ := bind_eq_ok.1 hrest
  obtain ⟨_, -, hrest⟩ := bind_eq_ok.1 hrest
  cases hrest
  exact h.saveApplication (show ApplicationCurrent a from h.applications id a
    (lockApplication_ok ha).1)

theorem AllCurrent.updateModuleMembership {params : ApplicationParams}
    {ifMatch : Option String} {attach : Bool} {moduleId : ℕ} (h : AllCurrent db)
    (hupdate : updateModuleMembership engine db now params id ifMatch attach moduleId =
      .ok (r, db')) : AllCurrent db' := by
  obtain ⟨_, -, hrest⟩ := bind_eq_ok.1 hupdate
  obtain ⟨expected, -, hrest⟩ := bind_eq_ok.1 hrest
  obtain ⟨a, ha, hrest⟩ := bind_eq_ok.1 hrest
  split_ifs at hrest
  · cases hrest
    exact h
  · obtain ⟨_, -, hrest⟩ := bind_eq_ok.1 hrest
    cases hrest
    exact h.saveApplication (show ApplicationCurrent a from h.applications id a
      (lockApplication_ok ha).1)

theorem AllCurrent.publishImmutableVersion {version : String} {metadata : String × String}
    {expected : Option ℕ} {p : Publication} (h : AllCurrent db)
    (hpublish : publishImmutableVersion engine db now id version metadata expected = .ok (p, db')) :
    AllCurrent db' := by
  obtain ⟨a, -, hrest⟩ := bind_eq_ok.1 hpublish
  obtain ⟨_, -, hrest⟩ := bind_eq_ok.1 hrest
  obtain ⟨snapshot, -, hrest⟩ := bind_eq_ok.1 hrest
  cases hfind : a.versions.find? (·.version == version) with
  | some v =>
    rw [hfind] at hrest
    obtain ⟨_, -, hrest⟩ := bind_eq_ok.1 hrest
    cases hrest
    exact h
  | none =>
    rw [hfind] at hrest
    obtain ⟨_, -, hrest⟩ := bind_eq_ok.1 hrest
    cases hrest
    exact h.saveApplication (applicationCurrent_publish a _ rfl)

theorem applicationCurrent_synchronize {a : Application} (ha : ApplicationCurrent a)
    (name description : String) (enabled : Bool) (modules : Finset ℕ) :
    ApplicationCurrent (a.synchronize name description enabled modules now) := by
  unfold Application.synchronize
  split_ifs <;> exact ha

theorem AllCurrent.saveManifestApplication {payload : Json} {modules : Finset ℕ}
    {created : Bool} (h : AllCurrent db)
    (hsave : saveManifestApplication py engine now db payload modules = .ok (id, created, db')) :
    AllCurrent db' := by
  obtain ⟨_, -, hrest⟩ := bind_eq_ok.1 hsave
  split at hrest
  next i a hfind =>
    obtain ⟨_, -, hrest⟩ := bind_eq_ok.1 hrest
    obtain ⟨_, -, hrest⟩ := bind_eq_ok.1 hrest
    cases hrest
    exact h.saveApplication (applicationCurrent_synchronize
      (h.applications _ _ (Table.lookup_of_find hfind).1) ..)
  next =>
    obtain ⟨_, -, hrest⟩ := bind_eq_ok.1 hrest
    cases hrest
    exact ⟨h.tools, current_insert h.applications ⟨rfl, rfl⟩⟩

theorem AllCurrent.publishManifestVersion {payload : Json} {version : Option String}
    {b c : Bool} (h : AllCurrent db)
    (hpublish : publishManifestVersion py engine now db id payload version = .ok (b, c, db')) :
    AllCurrent db' := by
  unfold Catalogue.publishManifestVersion at hpublish
  split at hpublish
  · cases hpublish
    exact h
  · obtain ⟨_, -, hrest⟩ := bind_eq_ok.1 hpublish
    split at hrest
    next hp =>
      cases hrest
      exact h.publishImmutableVersion hp
    next =>
      cases hrest
      exact h
    next => cases hrest

theorem AllCurrent.discoverApplication {s s' : Discovery} {file : Manifest}
    (h : AllCurrent s.db) (hstep : discoverApplication py engine now s file = .ok s') :
    AllCurrent s'.db := by
  unfold Catalogue.discoverApplication at hstep
  split at hstep
  · cases hstep
    exact h
  · split at hstep
    · cases hstep
    · obtain ⟨⟨i, created, db₁⟩, hsave, hrest⟩ := bind_eq_ok.1 hstep
      obtain ⟨⟨accepted, published, db₂⟩, hpublish, hrest⟩ := bind_eq_ok.1 hrest
      have hcurrent := (h.saveManifestApplication hsave).publishManifestVersion hpublish
      cases accepted <;> cases hrest <;> exact hcurrent

theorem AllCurrent.discoverModule {s s' : Discovery} {file : Manifest}
    (h : AllCurrent s.db) (hstep : discoverModule py engine now s file = .ok s') :
    AllCurrent s'.db := by
  unfold Catalogue.discoverModule at hstep
  split at hstep
  · cases hstep
    exact h
  · split at hstep
    · cases hstep
      exact h
    · obtain ⟨_, -, hrest⟩ := bind_eq_ok.1 hstep
      obtain ⟨_, -, hrest⟩ := bind_eq_ok.1 hrest
      obtain ⟨_, -, hrest⟩ := bind_eq_ok.1 hrest
      split_ifs at hrest <;> cases hrest <;> exact ⟨h.tools, h.applications⟩

end Applications

/-! ### Tools -/

section Tools

variable {env : Environment} {engine : Engine} {py : Conversions} {now : Time} {id : ℕ}
  {db db' : Database} {row : Tool} {payload : Json}

theorem AllCurrent.saveTool (h : AllCurrent db) (hrow : ToolCurrent row) :
    AllCurrent (db.saveTool id row) :=
  ⟨current_insert h.tools hrow, h.applications⟩

theorem AllCurrent.saveManifestTool {modules : Finset ℕ} {created : Bool} (h : AllCurrent db)
    (hsave : saveManifestTool py engine now db payload modules = .ok (id, row, created, db')) :
    ToolCurrent row ∧ AllCurrent db' := by
  obtain ⟨_, -, hrest⟩ := bind_eq_ok.1 hsave
  obtain ⟨_, -, hrest⟩ := bind_eq_ok.1 hrest
  -- the values of a manifest are no release columns
  have hrow : ToolCurrent (manifestTool py now payload modules
      (((db.tools.find fun _ row => row.slug == manifestText py payload "slug" "").map
        (·.2)).getD (Tool.blank now))) := by
    cases hfind : db.tools.find fun _ row => row.slug == manifestText py payload "slug" "" with
    | none => exact ⟨rfl, rfl⟩
    | some found => exact (show ToolCurrent found.2 from h.tools _ _ (Table.lookup_of_find hfind).1)
  split_ifs at hrest <;> cases hrest <;> exact ⟨hrow, current_insert h.tools hrow, h.applications⟩

theorem AllCurrent.publishToolVersion {version : Option String} {published : Bool}
    (h : AllCurrent db) (hrow : ToolCurrent row)
    (hpublish : publishToolVersion py engine now db id row payload version =
      .ok (some (published, db'))) : AllCurrent db' := by
  unfold Catalogue.publishToolVersion at hpublish
  split at hpublish
  · cases hpublish
    exact h
  · obtain ⟨_, -, hrest⟩ := bind_eq_ok.1 hpublish
    split at hrest
    next => cases hrest
    next hp =>
      cases hrest
      exact h.saveTool (toolCurrent_publish hp hrow)

theorem AllCurrent.discoverTool {s s' : Discovery} {file : Manifest} (h : AllCurrent s.db)
    (hstep : discoverTool py engine now s file = .ok s') : AllCurrent s'.db := by
  unfold Catalogue.discoverTool at hstep
  split at hstep
  · cases hstep
    exact h
  · split at hstep
    · cases hstep
    · obtain ⟨⟨i, row, created, db₁⟩, hsave, hrest⟩ := bind_eq_ok.1 hstep
      obtain ⟨hrow, hsaved⟩ := h.saveManifestTool hsave
      obtain ⟨published, hpublish, hrest⟩ := bind_eq_ok.1 hrest
      cases published with
      | none =>
        cases hrest
        exact hsaved
      | some result =>
        cases hrest
        exact hsaved.publishToolVersion hrow hpublish

end Tools

/-! ### Steps -/

section Steps

variable {env : Environment} {now : Time} {db db' : Database} {next : List Task}

/-- Autodiscovery publishes, and writes no release columns otherwise. -/
theorem AllCurrent.autoDiscover {r : Response} {files : Manifests} (h : AllCurrent db)
    (hdiscover : autoDiscover env.py env.engine now db files = .ok (r, db')) : AllCurrent db' := by
  unfold Catalogue.autoDiscover at hdiscover
  split at hdiscover
  · cases hdiscover
  next s hs =>
    split_ifs at hdiscover
    cases hdiscover
    obtain ⟨s₁, hmodules, hs⟩ := bind_eq_ok.1 hs
    obtain ⟨s₂, htools, happlications⟩ := bind_eq_ok.1 hs
    have h₁ : AllCurrent s₁.db :=
      foldlM_induction (P := fun _ (s : Discovery) => AllCurrent s.db) (s := ⟨db, {}⟩) h
        (fun _ _ _ _ hs hstep => hs.discoverModule hstep) hmodules
    have h₂ : AllCurrent s₂.db :=
      foldlM_induction (P := fun _ (s : Discovery) => AllCurrent s.db) h₁
        (fun _ _ _ _ hs hstep => hs.discoverTool hstep) htools
    exact foldlM_induction (P := fun _ (s : Discovery) => AllCurrent s.db) h₂
      (fun _ _ _ _ hs hstep => hs.discoverApplication hstep) happlications

theorem AllCurrent.single {r : Handler (Response × Database)}
    (hr : ∀ response db', r = .ok (response, db') → AllCurrent db')
    (hsingle : single r = .ok (db', next)) : AllCurrent db' := by
  obtain ⟨⟨response, db'⟩, hok, hdb⟩ := map_eq_ok.1 hsingle
  cases hdb
  exact hr response db' hok

theorem AllCurrent.handle {user : Principal} {req : Request} (h : AllCurrent db)
    (hhandle : req.handle env user db now = .ok (db', next)) : AllCurrent db' := by
  -- every request is checked first; only a part of them writes at once
  cases req <;> obtain ⟨_, -, hrest⟩ := bind_eq_ok.1 hhandle
  case updateApplication => exact AllCurrent.single (fun _ _ hok => h.updateApplication hok) hrest
  case setMembership =>
    exact AllCurrent.single (fun _ _ hok => h.updateModuleMembership hok) hrest
  case publishApplication =>
    obtain ⟨_, -, hrest⟩ := bind_eq_ok.1 hrest
    obtain ⟨_, -, hrest⟩ := bind_eq_ok.1 hrest
    obtain ⟨_, -, hrest⟩ := bind_eq_ok.1 hrest
    cases hrest
    exact h
  case updateTool =>
    obtain ⟨_, -, hrest⟩ := bind_eq_ok.1 hrest
    cases hrest
    exact h
  case setToolMembership | publishTool =>
    obtain ⟨_, -, hrest⟩ := bind_eq_ok.1 hrest
    obtain ⟨_, -, hrest⟩ := bind_eq_ok.1 hrest
    cases hrest
    exact h
  case autoDiscover => exact AllCurrent.single (fun _ _ hok => h.autoDiscover hok) hrest

theorem existing_eq_ok {id : ℕ} {t : Tool} :
    existing db id = .ok t ↔ db.tools.lookup id = some t := by
  unfold existing
  split <;> simp_all

theorem AllCurrent.run {task : Task} (h : AllCurrent db) (hok : task.upToDate db = true)
    (hrun : task.run env db now = .ok (db', next)) : AllCurrent db' := by
  cases task with
  | publishApplication id version metadata expected =>
    obtain ⟨⟨p, db'⟩, hpublish, hrest⟩ := bind_eq_ok.1 hrun
    cases hrest
    exact h.publishImmutableVersion hpublish
  | validateTool id row patch body =>
    obtain ⟨_, -, hrest⟩ := bind_eq_ok.1 hrun
    cases hrest
    exact h
  | saveTool id row body =>
    obtain ⟨_, -, hrest⟩ := bind_eq_ok.1 hrun
    cases hrest
    obtain ⟨stored, hstored, hsame⟩ := (Option.any_eq_true _ _).1 hok
    simp only [Bool.and_eq_true, beq_iff_eq] at hsame
    refine h.saveTool ?_
    -- the release columns and the versions are those of the stored row
    have hcurrent : ToolCurrent stored := h.tools id stored hstored
    rw [ToolCurrent, ← hsame.1, ← hsame.2] at hcurrent
    simpa [ToolCurrent, Tool.assign, hstored] using hcurrent
  | setToolModules id | changeToolModule id =>
    obtain ⟨t, ht, hrest⟩ := bind_eq_ok.1 hrun
    obtain ⟨_, -, hrest⟩ := bind_eq_ok.1 hrest
    cases hrest
    exact h.saveTool (show ToolCurrent t from h.tools id t (existing_eq_ok.1 ht))
  | publishTool id version metadata =>
    obtain ⟨t, ht, hrest⟩ := bind_eq_ok.1 hrun
    split at hrest
    next => cases hrest
    next saved created hpublish =>
      cases hrest
      exact h.saveTool (toolCurrent_publish hpublish (h.tools id t (existing_eq_ok.1 ht)))

end Steps

/-- **An edit does not undo a release**: the current version and the release time of every tool and
application are those of its last publication, in every run in which no tool update saves outdated
release columns. -/
theorem releases_stay_current (env : Environment) {db : Database} {w : World} (h : AllCurrent db)
    (run : Reach (step env) UpToDate (World.start db) w) : AllCurrent w.db := by
  refine run.invariant (fun w => AllCurrent w.db) h ?_
  rintro a e b - ha hok next
  cases e with
  | request user now req =>
    simp only [step] at next
    split at next
    · rename_i hhandle
      cases next
      exact ha.handle hhandle
    · cases next
      exact ha
  | resume thread now =>
    simp only [step] at next
    split at next
    · rename_i task rest hthread
      -- only a write that follows an earlier read can be out of date
      have hdate : task.upToDate a.db = true := by simpa [UpToDate, hthread] using hok
      split at next
      · rename_i hrun
        cases next
        exact ha.run hdate hrun
      · cases next
        exact ha
    · cases next

/-! ### Samples -/

def toolDatabase : Database := { Database.empty with
  tools := AList.singleton 1 { Tool.blank 1 with name := "Viewer", slug := "viewer" }
  nextId := 2 }

theorem allCurrent_toolDatabase : AllCurrent toolDatabase := by
  refine ⟨fun id t h => ?_, fun id a h => by cases h⟩
  have hmem : (⟨id, t⟩ : Sigma fun _ : ℕ => Tool) ∈ toolDatabase.tools.entries :=
    AList.mem_lookup_iff.1 h
  cases List.mem_singleton.1 hmem
  exact ⟨rfl, rfl⟩

/-- The description of the tool is changed. -/
def describeTool : Event :=
  .request (.token adminTokenUser) 2 (.updateTool {} 1 true { description := some "Maps" })

/-- A version of the tool is published. -/
def releaseTool : Event :=
  .request (.token adminTokenUser) 3 (.publishTool {} 1 { version := "1.0.0" })

/-- The tool has been described, and these are its release columns and versions. -/
def observes (currentVersion : String) (releasedAt : Option Time) (versions : List String)
    (w : World) : Bool :=
  (w.db.tools.lookup 1).any fun t =>
    t.description == "Maps" && t.currentVersion == currentVersion && t.releasedAt == releasedAt &&
      t.versions.map (·.version) == versions

/-- The tool is changed, and then a version is published. -/
theorem releases_stay_current_sample :
    ∃ w, Reach (step (sampleEnvironment .sqlite)) UpToDate (World.start toolDatabase) w ∧
      observes "1.0.0" (some 5) ["1.0.0"] w = true ∧ AllCurrent w.db := by
  have hrun : ((runLabels (step (sampleEnvironment .sqlite)) UpToDate (World.start toolDatabase)
      [describeTool, .resume 0 2, .resume 0 3, releaseTool, .resume 1 5]).any
        (observes "1.0.0" (some 5) ["1.0.0"])) = true := by
    decide +kernel
  obtain ⟨w, hw, hobserves⟩ := (Option.any_eq_true _ _).1 hrun
  have hreach := reach_of_runLabels hw
  exact ⟨w, hreach, hobserves, releases_stay_current _ allCurrent_toolDatabase hreach⟩

/-- **An update withdraws a release**: a version is published after the update has loaded the tool,
and the update stores the version from before. -/
theorem stale_update_withdraws_release :
    AllCurrent toolDatabase ∧
    ∃ w, Reach (step (sampleEnvironment .sqlite)) Free (World.start toolDatabase) w ∧
      observes "0.1.0" none ["1.0.0"] w = true ∧ ¬ AllCurrent w.db := by
  have hrun : ((runLabels (step (sampleEnvironment .sqlite)) Free (World.start toolDatabase)
      [describeTool, .resume 0 2, releaseTool, .resume 1 5, .resume 0 6]).any
        (observes "0.1.0" none ["1.0.0"])) = true := by
    decide +kernel
  obtain ⟨w, hw, hobserves⟩ := (Option.any_eq_true _ _).1 hrun
  refine ⟨allCurrent_toolDatabase, w, reach_of_runLabels hw, hobserves, fun hall => ?_⟩
  obtain ⟨t, ht, hcolumns⟩ := (Option.any_eq_true _ _).1 hobserves
  simp only [Bool.and_eq_true, beq_iff_eq] at hcolumns
  obtain ⟨⟨⟨-, hversion⟩, -⟩, hversions⟩ := hcolumns
  obtain ⟨v, hv⟩ : ∃ v, t.versions = [v] := by
    rw [← List.length_eq_one_iff, ← List.length_map, hversions]
    rfl
  have hcurrent := hall.tools 1 t ht
  rw [hv, List.map_singleton, List.singleton_inj] at hversions
  simp [ToolCurrent, Current, hv, hversion, hversions] at hcurrent

end ArchiDeal.Catalogue.Releases
