import ArchiDeal.Catalogue.Locking
import ArchiDeal.Catalogue.System

/-!
# Entity tags of the catalogue

The ETag of an application or a dataset is its revision. Every handler that changes a row gives it
the next revision, so that equal revisions mean equal rows, with two exceptions: the relations of a
row that is being created are set after the row was committed with its first revision, and the
deletion of a module, a user or a group removes its links from rows whose revision stays. In runs
without these two, `etag_identifies_content` holds; `etag_served_twice` is a run with them.

* `Grew db db'`: what a transaction may do to the rows;
* `grew_handle`, `grew_run`: every transaction of a careful run does no more.
-/

namespace ArchiDeal.Catalogue

open Text Hosting Fields Transition

variable {env : Environment} {engine : Engine} {locale : Locale} {py : Conversions}
  {user : Principal} {now : Time} {db db' db'' : Database} {id : ℕ} {a : Application} {d : Dataset}

/-! ### Growing databases -/

/-- The rows of applications and datasets are the same, have larger revisions, or are new. -/
structure Grew (db db' : Database) : Prop where
  next : db.nextId ≤ db'.nextId
  applications : db.applications.Grows (·.revision) db.nextId db'.nextId db'.applications
  datasets : db.datasets.Grows (·.revision) db.nextId db'.nextId db'.datasets

/-- The sequences are ahead of the keys. -/
structure Fresh (db : Database) : Prop where
  applications : ∀ id a, db.applications.lookup id = some a → id < db.nextId
  datasets : ∀ id d, db.datasets.lookup id = some d → id < db.nextId

theorem Grew.of_eq (hnext : db.nextId ≤ db'.nextId) (ha : db'.applications = db.applications)
    (hd : db'.datasets = db.datasets) : Grew db db' :=
  ⟨hnext, .of_eq ha, .of_eq hd⟩

theorem Grew.refl (db : Database) : Grew db db := .of_eq le_rfl rfl rfl

theorem Grew.trans (h : Grew db db') (h' : Grew db' db'') : Grew db db'' where
  next := h.next.trans h'.next
  applications := h.applications.trans h'.applications h.next h'.next
  datasets := h.datasets.trans h'.datasets h.next h'.next

theorem Fresh.grew (hf : Fresh db) (h : Grew db db') : Fresh db' where
  applications _ _ ha := h.applications.lt h.next hf.applications ha
  datasets _ _ hd := h.datasets.lt h.next hf.datasets hd

theorem grew_saveApplication {a' : Application} (ha : db.applications.lookup id = some a)
    (hr : a' = a ∨ a.revision < a'.revision) : Grew db (db.saveApplication id a') :=
  ⟨le_rfl, Table.grows_save ha hr, .of_eq rfl⟩

theorem grew_saveDataset {d' : Dataset} (hd : db.datasets.lookup id = some d)
    (hr : d' = d ∨ d.revision < d'.revision) : Grew db (db.saveDataset id d') :=
  ⟨le_rfl, .of_eq rfl, Table.grows_save hd hr⟩

theorem grew_insertApplication :
    Grew db { db.saveApplication db.nextId a with nextId := db.nextId + 1 } :=
  ⟨Nat.le_succ _, Table.grows_insert, .of_eq rfl⟩

theorem grew_insertDataset : Grew db { db.saveDataset db.nextId d with nextId := db.nextId + 1 } :=
  ⟨Nat.le_succ _, .of_eq rfl, Table.grows_insert⟩

/-! ### Deletions at the other end of a relation -/

/-- No application and no dataset has the module. -/
def ModuleUnused (db : Database) (id : ℕ) : Prop :=
  (∀ i a, db.applications.lookup i = some a → id ∉ a.modules) ∧
    ∀ i d, db.datasets.lookup i = some d → id ∉ d.modules

/-- No access list names the user. -/
def UserUnused (db : Database) (id : ℕ) : Prop :=
  ∀ i d, db.datasets.lookup i = some d → id ∉ d.users

/-- No access list names the group. -/
def GroupUnused (db : Database) (id : ℕ) : Prop :=
  ∀ i d, db.datasets.lookup i = some d → id ∉ d.groups

theorem grew_deleteModule (h : ModuleUnused db id) : Grew db (db.deleteModule id) where
  next := le_rfl
  applications := Table.grows_mapRows fun i a ha => by rw [Finset.erase_eq_of_notMem (h.1 i a ha)]
  datasets := Table.grows_mapRows fun i d hd => by rw [Finset.erase_eq_of_notMem (h.2 i d hd)]

theorem grew_deleteUser (h : UserUnused db id) : Grew db (db.deleteUser id) where
  next := le_rfl
  applications := .of_eq rfl
  datasets := Table.grows_mapRows fun i d hd => by rw [Finset.erase_eq_of_notMem (h i d hd)]

theorem grew_deleteGroup (h : GroupUnused db id) : Grew db (db.deleteGroup id) where
  next := le_rfl
  applications := .of_eq rfl
  datasets := Table.grows_mapRows fun i d hd => by rw [Finset.erase_eq_of_notMem (h i d hd)]

/-! ### Locked rows -/

theorem lookup_of_getOr404 {α : Type} [DecidableEq α] {q : Query (ℕ × α)} {t : Table ℕ α} {row : α}
    (h : getOr404 engine q t id = .ok row) : t.lookup id = some row := by
  obtain ⟨rows, hselect, h⟩ := bind_eq_ok.1 h
  have hrows : rows = (q.filter fun row => row.1 == id).rows (rowsOf t) := by
    cases engine with
    | sqlite => exact (Except.ok.inj hselect).symm
    | postgresql =>
      simp only [select] at hselect
      split_ifs at hselect
      exact (Except.ok.inj hselect).symm
  obtain _ | ⟨r, _ | ⟨r', rest⟩⟩ := rows
  · cases h
  · cases h
    have hmem : r ∈ (q.filter fun row => row.1 == id).rows (rowsOf t) :=
      hrows ▸ List.mem_singleton_self r
    obtain ⟨hr, hsel⟩ := Query.mem_rows.1 hmem
    rw [Query.selects_filter, Bool.and_eq_true, beq_iff_eq] at hsel
    exact hsel.2 ▸ mem_rowsOf.1 hr
  · cases h

theorem lockApplication_ok {params : ApplicationParams} {expected : ℕ}
    (h : lockApplication engine db params id expected = .ok a) :
    db.applications.lookup id = some a ∧ a.revision = expected := by
  obtain ⟨b, hb, h⟩ := bind_eq_ok.1 h
  obtain ⟨_, hrev, h⟩ := bind_eq_ok.1 h
  cases h
  exact ⟨lookup_of_getOr404 hb, by simpa using ensure_eq_ok.1 hrev⟩

theorem lockDataset_ok {params : DatasetParams} {expected : ℕ}
    (h : lockDataset engine locale db user params id expected = .ok d) :
    db.datasets.lookup id = some d ∧ d.revision = expected := by
  obtain ⟨q, -, h⟩ := bind_eq_ok.1 h
  obtain ⟨b, hb, h⟩ := bind_eq_ok.1 h
  obtain ⟨_, hrev, h⟩ := bind_eq_ok.1 h
  cases h
  exact ⟨lookup_of_getOr404 hb, by simpa using ensure_eq_ok.1 hrev⟩

/-! ### Handlers of one transaction -/

section Handlers

variable {r : Response} {ifMatch : Option String} {patch : Bool} {conditions : Module → Bool}

theorem grew_updateApplication {params : ApplicationParams} {body : EntryBody}
    (h : updateApplication engine db now params id ifMatch patch body = .ok (r, db')) :
    Grew db db' := by
  obtain ⟨expected, -, h⟩ := bind_eq_ok.1 h
  obtain ⟨a, ha, h⟩ := bind_eq_ok.1 h
  obtain ⟨_, -, h⟩ := bind_eq_ok.1 h
  obtain ⟨_, -, h⟩ := bind_eq_ok.1 h
  cases h
  exact grew_saveApplication (lockApplication_ok ha).1 (.inr (Nat.lt_succ_self _))

theorem grew_destroyApplication {params : ApplicationParams}
    (h : destroyApplication engine db params id ifMatch = .ok (r, db')) : Grew db db' := by
  obtain ⟨expected, -, h⟩ := bind_eq_ok.1 h
  obtain ⟨a, -, h⟩ := bind_eq_ok.1 h
  obtain ⟨_, -, h⟩ := bind_eq_ok.1 h
  cases h
  exact ⟨le_rfl, Table.grows_erase, .of_eq rfl⟩

theorem grew_updateModuleMembership {params : ApplicationParams} {attach : Bool} {moduleId : ℕ}
    (h : updateModuleMembership engine db now params id ifMatch attach moduleId = .ok (r, db')) :
    Grew db db' := by
  obtain ⟨_, -, h⟩ := bind_eq_ok.1 h
  obtain ⟨expected, -, h⟩ := bind_eq_ok.1 h
  obtain ⟨a, ha, h⟩ := bind_eq_ok.1 h
  split_ifs at h with hsame
  · cases h
    exact .refl db
  · obtain ⟨_, -, h⟩ := bind_eq_ok.1 h
    cases h
    exact grew_saveApplication (lockApplication_ok ha).1 (.inr (Nat.lt_succ_self _))

theorem grew_publishImmutableVersion {version : String} {metadata : String × String}
    {expected : Option ℕ} {p : Publication}
    (h : publishImmutableVersion engine db now id version metadata expected = .ok (p, db')) :
    Grew db db' := by
  obtain ⟨a, ha, h⟩ := bind_eq_ok.1 h
  obtain ⟨_, -, h⟩ := bind_eq_ok.1 h
  obtain ⟨snapshot, -, h⟩ := bind_eq_ok.1 h
  cases hfind : a.versions.find? (·.version == version) with
  | some v =>
    rw [hfind] at h
    obtain ⟨_, -, h⟩ := bind_eq_ok.1 h
    cases h
    exact .refl db
  | none =>
    rw [hfind] at h
    obtain ⟨_, -, h⟩ := bind_eq_ok.1 h
    cases h
    exact grew_saveApplication (lookup_of_getOr404 ha) (.inr (Nat.lt_succ_self _))

theorem grew_updateDataset {params : DatasetParams} {body : DatasetBody}
    (h : updateDataset engine locale db user now params id ifMatch patch body = .ok (r, db')) :
    Grew db db' := by
  obtain ⟨expected, -, h⟩ := bind_eq_ok.1 h
  obtain ⟨d, hd, h⟩ := bind_eq_ok.1 h
  obtain ⟨_, -, h⟩ := bind_eq_ok.1 h
  obtain ⟨_, -, h⟩ := bind_eq_ok.1 h
  cases h
  exact grew_saveDataset (lockDataset_ok hd).1 (.inr (Nat.lt_succ_self _))

theorem grew_destroyDataset {params : DatasetParams}
    (h : destroyDataset engine locale db user params id ifMatch = .ok (r, db')) : Grew db db' := by
  obtain ⟨expected, -, h⟩ := bind_eq_ok.1 h
  obtain ⟨d, -, h⟩ := bind_eq_ok.1 h
  cases h
  exact ⟨le_rfl, .of_eq rfl, Table.grows_erase⟩

theorem grew_createModule {body : Json}
    (h : createModule py engine db now body = .ok (r, db')) : Grew db db' := by
  unfold createModule at h
  cases hv : moduleValues py engine body with
  | none => simp [hv] at h
  | some v =>
    rw [hv] at h
    obtain ⟨_, -, h⟩ := bind_eq_ok.1 h
    cases h
    exact .of_eq (Nat.le_succ _) rfl rfl

theorem grew_updateModule {body : Json}
    (h : updateModule py engine db conditions id patch body = .ok (r, db')) : Grew db db' := by
  obtain ⟨m, -, h⟩ := bind_eq_ok.1 h
  obtain ⟨_, -, h⟩ := bind_eq_ok.1 h
  cases hv : moduleValues py engine body with
  | none => simp [hv] at h
  | some v =>
    rw [hv] at h
    obtain ⟨_, -, h⟩ := bind_eq_ok.1 h
    cases h
    exact .of_eq le_rfl rfl rfl

theorem grew_destroyModule (hid : ModuleUnused db id)
    (h : destroyModule engine db conditions id = .ok (r, db')) : Grew db db' := by
  obtain ⟨m, -, h⟩ := bind_eq_ok.1 h
  obtain ⟨_, -, h⟩ := bind_eq_ok.1 h
  obtain ⟨_, -, h⟩ := bind_eq_ok.1 h
  cases h
  exact grew_deleteModule hid

end Handlers

/-! ### Autodiscovery -/

section Autodiscovery

variable {s s' : Discovery} {file : Manifest}

theorem grew_saveManifestModule {payload : Json} {port : Option ℤ}
    (h : saveManifestModule py engine now s payload port = .ok s') : Grew s.db s'.db := by
  obtain ⟨_, -, h⟩ := bind_eq_ok.1 h
  obtain ⟨_, -, h⟩ := bind_eq_ok.1 h
  obtain ⟨_, -, h⟩ := bind_eq_ok.1 h
  split_ifs at h
  · cases h
    exact .of_eq le_rfl rfl rfl
  · cases h
    exact .of_eq (Nat.le_succ _) rfl rfl

theorem grew_discoverModule (h : discoverModule py engine now s file = .ok s') :
    Grew s.db s'.db := by
  unfold discoverModule at h
  split at h
  · cases h
    exact .refl _
  · split at h
    · cases h
      exact .refl _
    · exact grew_saveManifestModule h

theorem grew_saveManifestTool {payload : Json} {modules : Finset ℕ} {row : Tool} {created : Bool}
    (h : saveManifestTool py engine now db payload modules = .ok (id, row, created, db')) :
    Grew db db' := by
  obtain ⟨_, -, h⟩ := bind_eq_ok.1 h
  obtain ⟨_, -, h⟩ := bind_eq_ok.1 h
  split_ifs at h
  · cases h
    exact .of_eq le_rfl rfl rfl
  · cases h
    exact .of_eq (Nat.le_succ _) rfl rfl

theorem grew_publishToolVersion {payload : Json} {row : Tool} {version : Option String} {b : Bool}
    (h : publishToolVersion py engine now db id row payload version = .ok (some (b, db'))) :
    Grew db db' := by
  unfold publishToolVersion at h
  split at h
  · cases h
    exact .refl _
  · obtain ⟨_, -, h⟩ := bind_eq_ok.1 h
    split at h
    next => cases h
    next =>
      cases h
      exact .of_eq le_rfl rfl rfl

theorem grew_discoverTool (h : discoverTool py engine now s file = .ok s') : Grew s.db s'.db := by
  unfold discoverTool at h
  split at h
  · cases h
    exact .refl _
  · split at h
    · cases h
    · obtain ⟨⟨i, row, created, db₁⟩, hsave, h⟩ := bind_eq_ok.1 h
      obtain ⟨published, hpublish, h⟩ := bind_eq_ok.1 h
      have hgrew := grew_saveManifestTool hsave
      cases published with
      | none =>
        cases h
        exact hgrew
      | some result =>
        cases h
        exact hgrew.trans (grew_publishToolVersion hpublish)

/-- A manifest leaves the application as it is, or gives it the next revision. -/
theorem synchronize_eq_or_lt (a : Application) (name description : String) (enabled : Bool)
    (modules : Finset ℕ) : a.synchronize name description enabled modules now = a ∨
      a.revision < (a.synchronize name description enabled modules now).revision := by
  unfold Application.synchronize
  split_ifs
  · exact .inl rfl
  · exact .inr (Nat.lt_succ_self _)

theorem grew_saveManifestApplication {payload : Json} {modules : Finset ℕ} {created : Bool}
    (h : saveManifestApplication py engine now db payload modules = .ok (id, created, db')) :
    Grew db db' := by
  obtain ⟨_, -, h⟩ := bind_eq_ok.1 h
  split at h
  next i b hfind =>
    obtain ⟨_, -, h⟩ := bind_eq_ok.1 h
    obtain ⟨_, -, h⟩ := bind_eq_ok.1 h
    cases h
    exact grew_saveApplication (Table.lookup_of_find hfind).1 (synchronize_eq_or_lt ..)
  next =>
    obtain ⟨_, -, h⟩ := bind_eq_ok.1 h
    cases h
    exact grew_insertApplication

theorem grew_publishManifestVersion {payload : Json} {version : Option String} {b c : Bool}
    (h : publishManifestVersion py engine now db id payload version = .ok (b, c, db')) :
    Grew db db' := by
  unfold publishManifestVersion at h
  split at h
  · cases h
    exact .refl _
  · obtain ⟨_, -, h⟩ := bind_eq_ok.1 h
    split at h
    next hp =>
      cases h
      exact grew_publishImmutableVersion hp
    next =>
      cases h
      exact .refl _
    next => cases h

theorem grew_discoverApplication (h : discoverApplication py engine now s file = .ok s') :
    Grew s.db s'.db := by
  unfold discoverApplication at h
  split at h
  · cases h
    exact .refl _
  · split at h
    · cases h
    · obtain ⟨⟨i, created, db₁⟩, hsave, h⟩ := bind_eq_ok.1 h
      obtain ⟨⟨accepted, published, db₂⟩, hpublish, h⟩ := bind_eq_ok.1 h
      have hgrew : Grew s.db db₂ :=
        (grew_saveManifestApplication hsave).trans (grew_publishManifestVersion hpublish)
      cases accepted <;> cases h <;> exact hgrew

theorem grew_foldlM {β : Type} {f : Discovery → β → Except DatabaseError Discovery}
    (hf : ∀ {s b s'}, f s b = .ok s' → Grew s.db s'.db) {files : List β}
    (h : files.foldlM f s = .ok s') : Grew s.db s'.db := by
  induction files generalizing s with
  | nil =>
    cases h
    exact .refl _
  | cons file files ih =>
    rw [List.foldlM_cons] at h
    obtain ⟨t, ht, h⟩ := bind_eq_ok.1 h
    exact (hf ht).trans (ih h)

theorem grew_autoDiscover {r : Response} {files : Manifests}
    (h : autoDiscover py engine now db files = .ok (r, db')) : Grew db db' := by
  unfold autoDiscover at h
  split at h
  · cases h
  next s hs =>
    split_ifs at h
    cases h
    obtain ⟨s₁, h₁, hs⟩ := bind_eq_ok.1 hs
    obtain ⟨s₂, h₂, hs⟩ := bind_eq_ok.1 hs
    exact ((grew_foldlM grew_discoverModule h₁).trans (grew_foldlM grew_discoverTool h₂)).trans
      (grew_foldlM grew_discoverApplication hs)

end Autodiscovery

/-! ### Careful runs -/

/-- A request that creates names no relation, and one that deletes a module deletes
an unused one. -/
def Request.Careful (db : Database) : Request → Prop
  | .createApplication body => body.moduleIds = none
  | .createDataset body => body.moduleIds = none ∧ body.userIds = none ∧ body.groupIds = none
  | .destroyModule _ id => ModuleUnused db id
  | _ => True

/-- A user or a group is deleted only if no access list names it. -/
def Task.Careful (db : Database) : Task → Prop
  | .deleteUser id => UserUnused db id
  | .deleteGroup id => GroupUnused db id
  | _ => True

/-- The condition on an event, in the state before it. -/
def Careful (w : World) : Event → Prop
  | .request _ _ req => req.Careful w.db
  | .resume thread _ =>
    ∀ task rest, w.threads[thread]? = some (task :: rest) → task.Careful w.db

/-- The transaction sets no relation of a row that was created. -/
def Task.Plain : Task → Prop
  | .insertApplication body => body.moduleIds = none
  | .insertDataset body => body.moduleIds = none ∧ body.userIds = none ∧ body.groupIds = none
  | .setApplicationModules .. | .setDatasetModules .. | .setDatasetUsers ..
  | .setDatasetGroups .. => False
  | _ => True

/-- Every transaction that is still to run is plain. -/
def World.Plain (w : World) : Prop := ∀ tasks ∈ w.threads, ∀ task ∈ tasks, task.Plain

section Steps

variable {tasks next : List Task}

theorem single_ok {h : Handler (Response × Database)} (hs : single h = .ok (db', tasks)) :
    (∃ r, h = .ok (r, db')) ∧ ∀ task ∈ tasks, task.Plain := by
  obtain ⟨⟨r, db₁⟩, hr, heq⟩ := map_eq_ok.1 hs
  cases heq
  exact ⟨⟨r, hr⟩, by simp⟩

theorem grew_read {task : Task}
    (h : (pure (db, [task]) : Handler (Database × List Task)) = .ok (db', tasks))
    (htask : task.Plain) : Grew db db' ∧ ∀ task ∈ tasks, task.Plain := by
  cases h
  exact ⟨.refl db, by simpa using htask⟩

theorem grew_single {h : Handler (Response × Database)}
    (hgrew : ∀ {r}, h = .ok (r, db') → Grew db db') (hs : single h = .ok (db', tasks)) :
    Grew db db' ∧ ∀ task ∈ tasks, task.Plain := by
  obtain ⟨⟨r, hr⟩, htasks⟩ := single_ok hs
  exact ⟨hgrew hr, htasks⟩

/-- **What a careful request does at once.** -/
theorem grew_handle {req : Request} (hc : req.Careful db)
    (h : req.handle env user db now = .ok (db', tasks)) :
    Grew db db' ∧ ∀ task ∈ tasks, task.Plain := by
  -- every request is checked first, and some are checked again
  cases req <;> obtain ⟨_, -, h⟩ := bind_eq_ok.1 h
  case createApplication =>
    obtain ⟨_, -, h⟩ := bind_eq_ok.1 h
    exact grew_read h hc
  case updateApplication => exact grew_single grew_updateApplication h
  case destroyApplication => exact grew_single grew_destroyApplication h
  case setMembership => exact grew_single grew_updateModuleMembership h
  case publishVersion =>
    obtain ⟨_, -, h⟩ := bind_eq_ok.1 h
    obtain ⟨_, -, h⟩ := bind_eq_ok.1 h
    obtain ⟨_, -, h⟩ := bind_eq_ok.1 h
    exact grew_read h trivial
  case createDataset =>
    obtain ⟨_, -, h⟩ := bind_eq_ok.1 h
    exact grew_read h hc
  case updateDataset => exact grew_single grew_updateDataset h
  case destroyDataset => exact grew_single grew_destroyDataset h
  case createModule => exact grew_single grew_createModule h
  case updateModule => exact grew_single grew_updateModule h
  case destroyModule => exact grew_single (grew_destroyModule hc) h
  case createUser =>
    obtain ⟨_, -, h⟩ := bind_eq_ok.1 h
    exact grew_read h trivial
  case updateUser =>
    obtain ⟨_, -, h⟩ := bind_eq_ok.1 h
    obtain ⟨_, -, h⟩ := bind_eq_ok.1 h
    obtain ⟨_, -, h⟩ := bind_eq_ok.1 h
    exact grew_read h trivial
  case destroyUser =>
    obtain ⟨_, -, h⟩ := bind_eq_ok.1 h
    obtain ⟨_, -, h⟩ := bind_eq_ok.1 h
    exact grew_read h trivial
  case createGroup =>
    obtain ⟨_, -, h⟩ := bind_eq_ok.1 h
    exact grew_read h trivial
  case updateGroup =>
    obtain ⟨_, -, h⟩ := bind_eq_ok.1 h
    obtain ⟨_, -, h⟩ := bind_eq_ok.1 h
    exact grew_read h trivial
  case destroyGroup =>
    obtain ⟨_, -, h⟩ := bind_eq_ok.1 h
    exact grew_read h trivial
  case autoDiscover => exact grew_single grew_autoDiscover h

theorem plain_setUserGroups (groupIds : Option (List ℕ)) :
    ∀ t ∈ (groupIds.map (Task.setUserGroups id)).toList, t.Plain := by
  intro t ht
  obtain ⟨ids, -, rfl⟩ := Option.map_eq_some_iff.1 (Option.mem_toList.1 ht)
  trivial

/-- **What a careful later transaction does.** -/
theorem grew_run {task : Task} (hp : task.Plain) (hc : task.Careful db)
    (h : task.run env db now = .ok (db', next)) : Grew db db' ∧ ∀ t ∈ next, t.Plain := by
  cases task with
  | insertApplication body =>
    obtain ⟨_, -, h⟩ := bind_eq_ok.1 h
    cases h
    exact ⟨grew_insertApplication, by simp [show body.moduleIds = none from hp]⟩
  | insertDataset body =>
    obtain ⟨hm, hu, hg⟩ := hp
    obtain ⟨_, -, h⟩ := bind_eq_ok.1 h
    cases h
    exact ⟨grew_insertDataset, by simp [DatasetBody.relations, hm, hu, hg]⟩
  | setApplicationModules | setDatasetModules | setDatasetUsers | setDatasetGroups => exact hp.elim
  | publishVersion id version metadata expected =>
    obtain ⟨⟨p, db₁⟩, hpub, h⟩ := bind_eq_ok.1 h
    cases h
    exact ⟨grew_publishImmutableVersion hpub, by simp⟩
  -- users and groups carry no revision, but deleting one may touch a dataset
  | insertUser row groupIds =>
    obtain ⟨_, -, h⟩ := bind_eq_ok.1 h
    cases h
    exact ⟨.of_eq (Nat.le_succ _) rfl rfl, plain_setUserGroups _⟩
  | saveUser id row groupIds =>
    obtain ⟨_, -, h⟩ := bind_eq_ok.1 h
    cases h
    exact ⟨.of_eq le_rfl rfl rfl, plain_setUserGroups _⟩
  | setUserGroups id ids =>
    obtain ⟨_, -, h⟩ := bind_eq_ok.1 h
    cases h
    exact ⟨.of_eq le_rfl rfl rfl, by simp⟩
  | deleteUser id =>
    obtain ⟨_, -, h⟩ := bind_eq_ok.1 h
    cases h
    exact ⟨grew_deleteUser hc, by simp⟩
  | insertGroup row =>
    obtain ⟨_, -, h⟩ := bind_eq_ok.1 h
    cases h
    exact ⟨.of_eq (Nat.le_succ _) rfl rfl, by simp⟩
  | saveGroup id row =>
    obtain ⟨_, -, h⟩ := bind_eq_ok.1 h
    cases h
    exact ⟨.of_eq le_rfl rfl rfl, by simp⟩
  | deleteGroup id =>
    cases h
    exact ⟨grew_deleteGroup hc, by simp⟩

/-- **One careful step.** -/
theorem step_careful {w w' : World} {e : Event} (hp : w.Plain) (hc : Careful w e)
    (h : step env w e = some w') : w'.Plain ∧ Grew w.db w'.db := by
  cases e with
  | request user now req =>
    cases h
    cases hout : req.handle env user w.db now with
    | error e => exact ⟨hp, .refl _⟩
    | ok out =>
      obtain ⟨hgrew, htasks⟩ := grew_handle hc hout
      refine ⟨fun tasks hmem => ?_, hgrew⟩
      rcases List.mem_append.1 hmem with hold | hnew
      · exact hp tasks hold
      · rw [List.mem_singleton.1 hnew]
        exact htasks
  | resume thread now =>
    simp only [step] at h
    split at h
    next task rest hthread =>
      cases h
      have hplain : ∀ t ∈ task :: rest, t.Plain := hp _ (List.mem_of_getElem? hthread)
      -- the rest of the thread is kept, or dropped after an error
      have hset : ∀ l : List Task, (∀ t ∈ l, t.Plain) →
          ∀ tasks ∈ w.threads.set thread l, ∀ t ∈ tasks, t.Plain := by
        intro l hl tasks hmem
        rcases List.mem_or_eq_of_mem_set hmem with hold | rfl
        · exact hp tasks hold
        · exact hl
      cases hout : task.run env w.db now with
      | error e => exact ⟨hset [] (by simp), .refl _⟩
      | ok out =>
        obtain ⟨hgrew, hnext⟩ :=
          grew_run (hplain task (.head _)) (hc task rest hthread) hout
        refine ⟨hset _ fun t ht => ?_, hgrew⟩
        rcases List.mem_append.1 ht with hnew | hold
        · exact hnext t hnew
        · exact hplain t (.tail _ hold)
    next => cases h

/-- A careful run from a plain state stays plain and grows the database. -/
theorem reach_careful {w w' : World} (hp : w.Plain) (h : Reach (step env) Careful w w') :
    w'.Plain ∧ Grew w.db w'.db := by
  have hplain : ∀ {v}, Reach (step env) Careful w v → v.Plain := fun hv =>
    hv.invariant World.Plain hp fun _ hi good next => (step_careful hi good next).1
  exact ⟨hplain h, h.related (fun v v' => Grew v.db v'.db) (fun v => .refl v.db) Grew.trans
    fun run good next => (step_careful (hplain run) good next).2⟩

end Steps

/-! ### Accepted preconditions -/

/-- A request with this `If-Match` is accepted for the application as it is in `db`. The header of a
publication is read when the request arrives, and its revision is compared under the lock. -/
inductive AcceptsApplication (env : Environment) (db : Database) (id : ℕ) (etag : String) : Prop
  | update {user now params patch body out}
      (ok : Request.handle env user db now (.updateApplication params id (some etag) patch body) =
        .ok out)
  | destroy {user now params out}
      (ok : Request.handle env user db now (.destroyApplication params id (some etag)) = .ok out)
  | membership {user now params attach moduleId out}
      (ok : Request.handle env user db now (.setMembership params id (some etag) attach moduleId) =
        .ok out)
  | publish {user now before params body task now' out}
      (begun : Request.handle env user before now (.publishVersion params id (some etag) body) =
        .ok (before, [task]))
      (ok : task.run env db now' = .ok out)

/-- A request with this `If-Match` is accepted for the dataset as it is in `db`. -/
inductive AcceptsDataset (env : Environment) (db : Database) (id : ℕ) (etag : String) : Prop
  | update {user now params patch body out}
      (ok : Request.handle env user db now (.updateDataset params id (some etag) patch body) =
        .ok out)
  | destroy {user now params out}
      (ok : Request.handle env user db now (.destroyDataset params id (some etag)) = .ok out)

section Accepted

variable {r : ℕ}

theorem ok_of_single {h : Handler (Response × Database)} {out : Database × List Task}
    (hs : single h = .ok out) : ∃ x, h = .ok x := by
  obtain ⟨x, hx, -⟩ := map_eq_ok.1 hs
  exact ⟨x, hx⟩

/-- **An accepted request finds the revision of its ETag.** -/
theorem AcceptsApplication.revision (hr : 0 < r)
    (h : AcceptsApplication env db id (revisionEtag r)) :
    ∃ a, db.applications.lookup id = some a ∧ a.revision = r := by
  have hlock : ∀ {params expected what} {a : Application},
      expectedRevision (some (revisionEtag r)) what = .ok expected →
      lockApplication env.engine db params id expected = .ok a →
      ∃ a, db.applications.lookup id = some a ∧ a.revision = r := by
    intro params expected what a he ha
    obtain ⟨hlookup, hrev⟩ := lockApplication_ok ha
    exact ⟨a, hlookup, hrev.trans (eq_of_expectedRevision_etag hr he)⟩
  cases h with
  | update ok | destroy ok =>
    obtain ⟨_, -, ok⟩ := bind_eq_ok.1 ok
    obtain ⟨_, ok⟩ := ok_of_single ok
    obtain ⟨expected, he, ok⟩ := bind_eq_ok.1 ok
    obtain ⟨a, ha, -⟩ := bind_eq_ok.1 ok
    exact hlock he ha
  | membership ok =>
    obtain ⟨_, -, ok⟩ := bind_eq_ok.1 ok
    obtain ⟨_, ok⟩ := ok_of_single ok
    obtain ⟨_, -, ok⟩ := bind_eq_ok.1 ok
    obtain ⟨expected, he, ok⟩ := bind_eq_ok.1 ok
    obtain ⟨a, ha, -⟩ := bind_eq_ok.1 ok
    exact hlock he ha
  | publish begun ok =>
    obtain ⟨_, -, begun⟩ := bind_eq_ok.1 begun
    obtain ⟨_, -, begun⟩ := bind_eq_ok.1 begun
    obtain ⟨expected, he, begun⟩ := bind_eq_ok.1 begun
    obtain ⟨_, -, begun⟩ := bind_eq_ok.1 begun
    cases begun
    obtain ⟨_, hpublish, -⟩ := bind_eq_ok.1 ok
    obtain ⟨a, ha, hpublish⟩ := bind_eq_ok.1 hpublish
    obtain ⟨_, hrev, -⟩ := bind_eq_ok.1 hpublish
    have hexpected : expected = a.revision := by simpa using ensure_eq_ok.1 hrev
    exact ⟨a, lookup_of_getOr404 ha, hexpected ▸ eq_of_expectedRevision_etag hr he⟩

theorem AcceptsDataset.revision (hr : 0 < r) (h : AcceptsDataset env db id (revisionEtag r)) :
    ∃ d, db.datasets.lookup id = some d ∧ d.revision = r := by
  have hlock : ∀ {user params expected what} {d : Dataset},
      expectedRevision (some (revisionEtag r)) what = .ok expected →
      lockDataset env.engine env.locale db user params id expected = .ok d →
      ∃ d, db.datasets.lookup id = some d ∧ d.revision = r := by
    intro user params expected what d he hd
    obtain ⟨hlookup, hrev⟩ := lockDataset_ok hd
    exact ⟨d, hlookup, hrev.trans (eq_of_expectedRevision_etag hr he)⟩
  cases h with
  | update ok | destroy ok =>
    obtain ⟨_, -, ok⟩ := bind_eq_ok.1 ok
    obtain ⟨_, ok⟩ := ok_of_single ok
    obtain ⟨expected, he, ok⟩ := bind_eq_ok.1 ok
    obtain ⟨d, hd, -⟩ := bind_eq_ok.1 ok
    exact hlock he hd

end Accepted

/-! ### What is served -/

/-- The answer to `GET` for the row `a`: its modules and its versions are read by later queries. -/
def servedApplication (a : Application) (modulesDb versionsDb : Database) (id : ℕ) : Application :=
  { a with
    modules := ((modulesDb.applications.lookup id).map (·.modules)).getD ∅
    versions := ((versionsDb.applications.lookup id).map (·.versions)).getD []
    revision_pos := a.pos }

/-- The answer to `GET` for the row `d`: each relation is read by a later query. -/
def servedDataset (d : Dataset) (modulesDb usersDb groupsDb : Database) (id : ℕ) : Dataset :=
  { d with
    modules := ((modulesDb.datasets.lookup id).map (·.modules)).getD ∅
    users := ((usersDb.datasets.lookup id).map (·.users)).getD ∅
    groups := ((groupsDb.datasets.lookup id).map (·.groups)).getD ∅
    revision_pos := d.pos }

/-- **Entity tags identify what was served, in careful runs.** Let every creation name no relation,
and let every module, user and group that is deleted be unused. Then the revision of an application
or a dataset never decreases, and two states with one revision have the same row, with its relations
and versions. A request that is accepted with the ETag of an earlier answer is applied to exactly
what that answer showed, although the answer reads the row and its relations one after the other. -/
theorem etag_identifies_content (env : Environment) {db₀ : Database} (h₀ : Fresh db₀) {w : World}
    (hw : Reach (step env) Careful (World.start db₀) w) :
    (∀ w' id a a', Reach (step env) Careful w w' → w.db.applications.lookup id = some a →
      w'.db.applications.lookup id = some a' →
        a.revision ≤ a'.revision ∧ (a'.revision = a.revision → a' = a)) ∧
    (∀ w' id d d', Reach (step env) Careful w w' → w.db.datasets.lookup id = some d →
      w'.db.datasets.lookup id = some d' →
        d.revision ≤ d'.revision ∧ (d'.revision = d.revision → d' = d)) ∧
    (∀ w₁ w₂ w' id a, w.db.applications.lookup id = some a → Reach (step env) Careful w w₁ →
      Reach (step env) Careful w₁ w₂ → Reach (step env) Careful w₂ w' →
      AcceptsApplication env w'.db id (revisionEtag a.revision) →
        w'.db.applications.lookup id = some (servedApplication a w₁.db w₂.db id)) ∧
    ∀ w₁ w₂ w₃ w' id d, w.db.datasets.lookup id = some d → Reach (step env) Careful w w₁ →
      Reach (step env) Careful w₁ w₂ → Reach (step env) Careful w₂ w₃ →
      Reach (step env) Careful w₃ w' → AcceptsDataset env w'.db id (revisionEtag d.revision) →
        w'.db.datasets.lookup id = some (servedDataset d w₁.db w₂.db w₃.db id) := by
  have hstart : (World.start db₀).Plain := by simp [World.Plain, World.start]
  obtain ⟨hplain, hgrew₀⟩ := reach_careful hstart hw
  have hfresh : Fresh w.db := h₀.grew hgrew₀
  have hgrew : ∀ {v}, Reach (step env) Careful w v → Grew w.db v.db := fun hv =>
    (reach_careful hplain hv).2
  have hlater : ∀ {v v'}, Reach (step env) Careful w v → Reach (step env) Careful v v' →
      Grew v.db v'.db := fun hv hv' => (reach_careful (reach_careful hplain hv).1 hv').2
  have happ : ∀ {w' id a a'}, Reach (step env) Careful w w' → w.db.applications.lookup id = some a →
      w'.db.applications.lookup id = some a' →
        a.revision ≤ a'.revision ∧ (a'.revision = a.revision → a' = a) := fun hr ha ha' =>
    (hgrew hr).applications.revision ha (hfresh.applications _ _ ha) ha'
  have hdata : ∀ {w' id d d'}, Reach (step env) Careful w w' → w.db.datasets.lookup id = some d →
      w'.db.datasets.lookup id = some d' →
        d.revision ≤ d'.revision ∧ (d'.revision = d.revision → d' = d) := fun hr hd hd' =>
    (hgrew hr).datasets.revision hd (hfresh.datasets _ _ hd) hd'
  refine ⟨fun w' id a a' hr ha ha' => happ hr ha ha', fun w' id d d' hr hd hd' => hdata hr hd hd',
    ?_, ?_⟩
  · intro w₁ w₂ w' id a ha r₁ r₂ r' hacc
    obtain ⟨a', ha', hrev⟩ := hacc.revision a.revision_pos
    obtain rfl : a' = a := (happ ((r₁.trans r₂).trans r') ha ha').2 hrev
    -- the row had not changed when its modules and its versions were read
    have hmid : ∀ {v}, Reach (step env) Careful w v → Reach (step env) Careful v w' →
        v.db.applications.lookup id = some a' := fun hv hv' =>
      (hgrew hv).applications.between (hlater hv hv').applications (hgrew hv).next
        (hfresh.applications _ _ ha) ha ha'
    simp [servedApplication, hmid r₁ (r₂.trans r'), hmid (r₁.trans r₂) r', ha']
  · intro w₁ w₂ w₃ w' id d hd r₁ r₂ r₃ r' hacc
    obtain ⟨d', hd', hrev⟩ := hacc.revision d.revision_pos
    obtain rfl : d' = d := (hdata (((r₁.trans r₂).trans r₃).trans r') hd hd').2 hrev
    have hmid : ∀ {v}, Reach (step env) Careful w v → Reach (step env) Careful v w' →
        v.db.datasets.lookup id = some d' := fun hv hv' =>
      (hgrew hv).datasets.between (hlater hv hv').datasets (hgrew hv).next
        (hfresh.datasets _ _ hd) hd hd'
    simp [servedDataset, hmid r₁ ((r₂.trans r₃).trans r'), hmid (r₁.trans r₂) (r₃.trans r'),
      hmid ((r₁.trans r₂).trans r₃) r', hd']

/-- An environment of plain texts. -/
def sampleEnvironment (engine : Engine) : Environment where
  engine := engine
  locale := plainLocale
  py := { str := fun f => f.text
          int := fun _ => some 0
          repr := fun _ => ""
          lower := fun s => s
          casefold := fun s => s }
  validUsername _ := true
  normalizeUsername s := s

/-- The change of a description, with the first ETag. -/
def describeRequest : Request :=
  .updateApplication {} 1 (some (revisionEtag 1)) true { description := some "Public portal" }

theorem fresh_sampleDatabase : Fresh sampleDatabase where
  applications id a h := by
    simp only [sampleDatabase, Table.lookup_insert_eq] at h ⊢
    split_ifs at h with hid
    · omega
    · cases h
  datasets id d h := by cases h

/-- A change with the first ETag is accepted and applied to what was served; its
revision is larger. -/
theorem etag_identifies_content_sample :
    sampleDatabase.applications.lookup 1 =
      some (servedApplication sampleApplication sampleDatabase sampleDatabase 1) ∧
    ∃ w' a', Reach (step (sampleEnvironment .sqlite)) Careful (World.start sampleDatabase) w' ∧
      w'.db.applications.lookup 1 = some a' ∧ a'.description = "Public portal" ∧
      sampleApplication.revision ≤ a'.revision := by
  obtain ⟨happ, -, hserved, -⟩ :=
    etag_identifies_content (sampleEnvironment .sqlite) fresh_sampleDatabase .refl
  have hok : (describeRequest.handle (sampleEnvironment .sqlite) (.token adminTokenUser)
      sampleDatabase 2).isOk = true := by decide +kernel
  obtain ⟨⟨db', tasks⟩, hout⟩ := isOk_iff.1 hok
  have hrun : Reach (step (sampleEnvironment .sqlite)) Careful (World.start sampleDatabase)
      ⟨db', [tasks]⟩ := by
    refine Reach.single (l := .request (.token adminTokenUser) 2 describeRequest) trivial ?_
    simp only [step, World.start, hout, World.begin, List.nil_append]
  have hrow : ((describeRequest.handle (sampleEnvironment .sqlite) (.token adminTokenUser)
      sampleDatabase 2).toOption.bind fun out =>
        (out.1.applications.lookup 1).map (·.description)) =
        some "Public portal" := by decide +kernel
  rw [hout] at hrow
  obtain ⟨a', ha', hdescription⟩ := Option.map_eq_some_iff.1 hrow
  exact ⟨hserved _ _ _ 1 _ rfl .refl .refl .refl (.update hout), _, a', hrun, ha', hdescription,
    (happ _ 1 _ _ hrun rfl ha').1⟩

def mapsModule : Json :=
  .obj [("name", .str "Maps"), ("slug", .str "maps"), ("image", .str "maps:1")]

/-- Staff creates a module and a dataset that has it; the row of the dataset is committed. -/
def creation : List Event :=
  [.request (.token adminTokenUser) 1 (.createModule mapsModule),
    .request (.token adminTokenUser) 2
      (.createDataset { name := some "Herd", slug := some "herd", moduleIds := some [1] }),
    .resume 1 3]

/-- The modules of the dataset are set. -/
def relation : List Event := [.resume 1 4]

/-- Staff deletes the module. -/
def deletion : List Event := [.request (.token adminTokenUser) 5 (.destroyModule (fun _ => true) 1)]

/-- Staff changes the dataset with its first ETag. -/
def change : List Event :=
  [.request (.token adminTokenUser) 6 (.updateDataset {} 2 (some (revisionEtag 1)) true
    { description := some "Public herd" })]

/-- The revision and the modules of the dataset after the events. -/
def observed (engine : Engine) (events : List Event) : Option (ℕ × Finset ℕ) :=
  (runLabels (step (sampleEnvironment engine)) Free (World.start .empty) events).bind fun w =>
    (w.db.datasets.lookup 2).map fun d => (d.revision, d.modules)

/-- The dataset has its first revision with and without the module: before its relation is set,
after that, and after the module is deleted. On SQLite a change with the ETag of the second state is
accepted in the third. -/
theorem etag_served_twice :
    observed .postgresql creation = some (1, ∅) ∧
    observed .postgresql (creation ++ relation) = some (1, {1}) ∧
    observed .postgresql (creation ++ relation ++ deletion) = some (1, ∅) ∧
    observed .sqlite (creation ++ relation) = some (1, {1}) ∧
    observed .sqlite (creation ++ relation ++ deletion) = some (1, ∅) ∧
    observed .sqlite (creation ++ relation ++ deletion ++ change) = some (2, ∅) := by
  decide +kernel

end ArchiDeal.Catalogue
