import ArchiDeal.Catalogue.Views
import ArchiDeal.Lib.JsonRoundTrip

/-!
# Row locks of the catalogue

The writes that carry the current `ETag` of an application or a dataset. Each of them locks a query:
the update, deletion and membership handlers lock the `DISTINCT` query of their view set, and the
publication of a version locks the modules together with the profiles that may be missing. SQLite
ignores the locks and carries every such write out; PostgreSQL refuses both kinds of lock, so that
it carries out none (`current_write_carried_out_iff`).
-/

namespace ArchiDeal.Catalogue

open Text Hosting

/-! ### The writes -/

/-- A request of staff without query parameters, except for its `If-Match`. -/
inductive Write where
  | updateApplication (id : ℕ) (patch : Bool) (body : EntryBody)
  | deleteApplication (id : ℕ)
  | setMembership (id : ℕ) (attach : Bool) (moduleId : ℕ)
  | publishVersion (id : ℕ) (body : VersionBody)
  | updateDataset (id : ℕ) (patch : Bool) (body : DatasetBody)
  | deleteDataset (id : ℕ)

/-- The response and the committed database. -/
def Write.handle (engine : Engine) (locale : Locale) (user : Principal) (db : Database) (now : Time)
    (ifMatch : Option String) (w : Write) : Response × Database :=
  finish db <| do
    requireStaff user
    match w with
    | .updateApplication id patch body =>
      Catalogue.updateApplication engine db now {} id ifMatch patch body
    | .deleteApplication id => destroyApplication engine db {} id ifMatch
    | .setMembership id attach moduleId =>
      updateModuleMembership engine db now {} id ifMatch attach moduleId
    | .publishVersion id body => Catalogue.publishVersion engine db now {} id ifMatch body
    | .updateDataset id patch body =>
      Catalogue.updateDataset engine locale db user now {} id ifMatch patch body
    | .deleteDataset id => destroyDataset engine locale db user {} id ifMatch

/-- The resource of the write exists and has this revision, and nothing stands against the write:
its body is valid, no row protects what it deletes, and the version that it publishes is new. -/
def Write.Current (db : Database) (revision : ℕ) : Write → Prop
  | .updateApplication id patch body => ∃ a, db.applications.lookup id = some a ∧
      a.revision = revision ∧
      body.isValid 80 patch (othersIn db.applications Application.toEntry id) db.modules = true
  | .deleteApplication id => ∃ a, db.applications.lookup id = some a ∧ a.revision = revision ∧
      id ∉ db.deployed
  | .setMembership id _ moduleId => ∃ a, db.applications.lookup id = some a ∧
      a.revision = revision ∧ (db.modules.lookup moduleId).isSome
  | .publishVersion id body => ∃ a, db.applications.lookup id = some a ∧ a.revision = revision ∧
      body.isValid = true ∧ a.versions.find? (·.version == body.normalized) = none
  | .updateDataset id patch body => ∃ d, db.datasets.lookup id = some d ∧ d.revision = revision ∧
      body.isValid db patch id = true
  | .deleteDataset id => ∃ d, db.datasets.lookup id = some d ∧ d.revision = revision

def modulesOf (db : Database) (a : Application) : List (ℕ × Module) :=
  (rowsOf db.modules).filter fun row => decide (row.1 ∈ a.modules)

/-- The database with the change of the write. -/
def Write.committed (db : Database) (now : Time) : Write → Database
  | .updateApplication id _ body => match db.applications.lookup id with
    | some a => db.saveApplication id { a with toEntry := a.toEntry.assign body now }
    | none => db
  | .deleteApplication id => { db with applications := db.applications.erase id }
  | .setMembership id attach moduleId => match db.applications.lookup id with
    | some a => if attach = decide (moduleId ∈ a.modules) then db
      else db.saveApplication id (a.setMember moduleId attach now)
    | none => db
  | .publishVersion id body => match db.applications.lookup id with
    | some a => db.saveApplication id (a.publish (newVersion body.normalized body.metadata
        (snapshotOf db id a (modulesOf db a)) now) now)
    | none => db
  | .updateDataset id _ body => match db.datasets.lookup id with
    | some d => db.saveDataset id (d.assign body now)
    | none => db
  | .deleteDataset id => { db with datasets := db.datasets.erase id }

/-- A status from 200 to 299. -/
def Response.isSuccess (r : Response) : Bool := 200 ≤ r.status && r.status < 300

/-- The change is committed and the answer is a success. -/
def Write.CarriedOut (engine : Engine) (locale : Locale) (user : Principal) (db : Database)
    (now : Time) (ifMatch : Option String) (w : Write) : Prop :=
  (w.handle engine locale user db now ifMatch).2 = w.committed db now ∧
    (w.handle engine locale user db now ifMatch).1.isSuccess = true

/-! ### Preconditions -/

theorem toList_revisionEtag (r : ℕ) :
    (revisionEtag r).toList = '"' :: (Nat.toDigits 10 r ++ ['"']) := by
  simp [revisionEtag, toString, Nat.repr]

theorem positiveNumeral_toDigits {r : ℕ} (hr : 0 < r) :
    positiveNumeral (Nat.toDigits 10 r) = true := by
  have hhead := Json.head_toDigits r hr.ne'
  have hdigits : ∀ c ∈ Nat.toDigits 10 r, digit c = true := fun c hc =>
    Json.digit_of_mem_toDigits hc
  cases hds : Nat.toDigits 10 r with
  | nil => exact absurd (congrArg List.length hds) (by simp)
  | cons c cs =>
    rw [hds] at hhead hdigits
    simp only [positiveNumeral, Bool.and_eq_true, bne_iff_ne, List.all_eq_true]
    exact ⟨⟨hdigits c (.head _), by simpa using hhead⟩, fun d hd => hdigits d (.tail _ hd)⟩

theorem toInt_toDigits {r : ℕ} (hr : r < 2 ^ 63) : toInt (Nat.toDigits 10 r) = some r := by
  have hlength : (Nat.toDigits 10 r).length ≤ 20 :=
    (Nat.length_toDigits_le_iff (by decide) (by decide)).2 (hr.trans_le (by decide))
  rw [toInt, if_pos (hlength.trans (by decide)), Nat.ofDigitChars_ten_toDigits]

theorem ifMatchRevision_etag {r : ℕ} (hpos : 0 < r) :
    ifMatchRevision (some (revisionEtag r)) = (toInt (Nat.toDigits 10 r)).elim
      (.error "Exceeds the limit (4300 digits) for integer string conversion")
      fun n => .ok (some n) := by
  have hstrip : (strip (revisionEtag r)).toList = '"' :: (Nat.toDigits 10 r ++ ['"']) := by
    have hquote : isSpace '"' = false := by decide
    simp [strip, toList_revisionEtag, hquote]
  cases hread : toInt (Nat.toDigits 10 r) with
  | none =>
    simp only [ifMatchRevision, hstrip, List.getLast?_concat, List.dropLast_concat, true_and,
      positiveNumeral_toDigits hpos, if_true, hread, Option.elim_none]
  | some n =>
    simp only [ifMatchRevision, hstrip, List.getLast?_concat, List.dropLast_concat, true_and,
      positiveNumeral_toDigits hpos, if_true, hread, Option.elim_some]

theorem expectedRevision_etag {r : ℕ} (hpos : 0 < r) (hr : r < 2 ^ 63) (what : String) :
    expectedRevision (some (revisionEtag r)) what = .ok r := by
  rw [expectedRevision, ifMatchRevision_etag hpos, toInt_toDigits hr, Option.elim_some]

theorem eq_of_expectedRevision_etag {r n : ℕ} (hpos : 0 < r) {what : String}
    (h : expectedRevision (some (revisionEtag r)) what = .ok n) : n = r := by
  rw [expectedRevision, ifMatchRevision_etag hpos, toInt] at h
  split_ifs at h
  · rw [Nat.ofDigitChars_ten_toDigits] at h
    exact (Except.ok.inj h).symm
  · cases h

/-! ### Queries of one row -/

section Rows

variable {α : Type} {t : Table ℕ α} {id : ℕ} {a : α} {q : Query (ℕ × α)}

theorem mem_rowsOf {row : ℕ × α} : row ∈ rowsOf t ↔ t.lookup row.1 = some row.2 := by
  rw [Table.lookup_eq_some_iff, rowsOf, List.mem_map]
  constructor
  · rintro ⟨e, he, rfl⟩
    exact he
  · intro h
    exact ⟨⟨row.1, row.2⟩, h, rfl⟩

theorem nodup_rowsOf (t : Table ℕ α) : (rowsOf t).Nodup := by
  have hkeys : ((rowsOf t).map Prod.fst).Nodup := by
    rw [rowsOf, List.map_map]
    exact t.nodupKeys
  exact hkeys.of_map

theorem filter_key {p : ℕ × α → Bool} (h : t.lookup id = some a) (hp : p (id, a) = true) :
    (rowsOf t).filter (fun row => p row && row.1 == id) = [(id, a)] := by
  refine List.perm_singleton.1 ((List.perm_ext_iff_of_nodup ((nodup_rowsOf t).filter _)
    (List.nodup_singleton _)).2 fun row => ?_)
  rw [List.mem_filter, mem_rowsOf, List.mem_singleton, Bool.and_eq_true, beq_iff_eq]
  constructor
  · rintro ⟨hrow, -, rfl⟩
    rw [h] at hrow
    cases hrow
    rfl
  · rintro rfl
    exact ⟨h, hp, rfl⟩

variable [DecidableEq α]

/-- A query that selects each row at most once finds the row with its key. -/
theorem getOr404_eq {engine : Engine} (h : t.lookup id = some a) (hq : q.selects (id, a) = true)
    (hrows : ∀ p, (q.filter p).rows (rowsOf t) = (rowsOf t).filter (q.filter p).selects)
    (hlock : engine = .sqlite ∨ q.lockable = true) : getOr404 engine q t id = .ok a := by
  have hselect : select engine (q.filter fun row => row.1 == id) (rowsOf t) = .ok [(id, a)] := by
    have hrow : (q.filter fun row => row.1 == id).rows (rowsOf t) = [(id, a)] := by
      have hselects : (q.filter fun row => row.1 == id).selects =
          fun row => q.selects row && row.1 == id := funext fun row => Query.selects_filter q _ row
      rw [hrows, hselects, filter_key h hq]
    rcases hlock with rfl | hlock
    · rw [select, hrow]
    · cases engine with
      | sqlite => rw [select, hrow]
      | postgresql =>
        have hlock' : (q.filter fun row => row.1 == id).lockable = true := hlock
        rw [select, hlock', if_pos rfl, hrow]
  rw [getOr404, hselect]
  rfl

/-- PostgreSQL does not lock the rows of a query that it cannot lock. -/
theorem getOr404_refused (hlock : q.lockable = false) :
    getOr404 .postgresql q t id = .error (.database .notSupported) := by
  have hlock' : (q.filter fun row => row.1 == id).lockable = false := hlock
  rw [getOr404, select, hlock']
  rfl

end Rows

/-! ### Carrying a write out -/

variable {locale : Locale} {user : Principal} {db : Database} {now : Time} {id r : ℕ}
  {a : Application} {d : Dataset}

theorem rows_dedup {α : Type} [DecidableEq α] (t : Table ℕ α) {q : Query (ℕ × α)}
    (hq : q.distinct = true) (p : ℕ × α → Bool) :
    (q.filter p).rows (rowsOf t) = (rowsOf t).filter (q.filter p).selects :=
  Query.rows_distinct hq (nodup_rowsOf t)

theorem selects_all {α : Type} (a : α) : Query.all.selects a = true := rfl

theorem rows_plain {α : Type} [DecidableEq α] {q : Query α} (hd : q.distinct = false)
    (hq : q.conditions = []) (p : α → Bool) (table : List α) :
    (q.filter p).rows table = table.filter (q.filter p).selects := by
  refine Query.rows_of_multiplicity_le_one hd fun a => ?_
  simp only [Query.multiplicity, Query.filter, hq, List.nil_append, List.map_cons, List.map_nil,
    List.prod_singleton]
  split_ifs <;> simp

theorem lockApplication_sqlite (h : db.applications.lookup id = some a) :
    lockApplication .sqlite db {} id a.revision = .ok a := by
  have hfound : getOr404 .sqlite (applicationQuery db {}).selectForUpdate db.applications id =
      .ok a := getOr404_eq h rfl (rows_dedup _ rfl) (.inl rfl)
  simp [lockApplication, hfound, pure, Except.pure]

theorem filteredDatasets_staff (hstaff : user.isStaff = true) :
    filteredDatasets locale db user {} = .ok Query.all.dedup := by
  simp [filteredDatasets, datasetQuery, scopeQuery, hstaff, keyFilter, given, searchQuery, pure,
    Except.pure]

theorem lockDataset_sqlite (hstaff : user.isStaff = true) (h : db.datasets.lookup id = some d) :
    lockDataset .sqlite locale db user {} id d.revision = .ok d := by
  have hfound : getOr404 .sqlite Query.all.dedup.selectForUpdate db.datasets id = .ok d :=
    getOr404_eq h rfl (rows_dedup _ rfl) (.inl rfl)
  simp [lockDataset, filteredDatasets_staff hstaff, hfound, pure, Except.pure]

theorem lockApplication_postgresql (expected : ℕ) :
    lockApplication .postgresql db {} id expected = .error (.database .notSupported) := by
  rw [lockApplication, getOr404_refused rfl]
  rfl

theorem lockDataset_postgresql (hstaff : user.isStaff = true) (expected : ℕ) :
    lockDataset .postgresql locale db user {} id expected = .error (.database .notSupported) := by
  rw [lockDataset, filteredDatasets_staff hstaff, ok_bind, getOr404_refused rfl]
  rfl

theorem snapshotApplication_sqlite :
    snapshotApplication .sqlite db id a = .ok (snapshotOf db id a (modulesOf db a)) := by
  have hrows : (snapshotQuery a).rows (rowsOf db.modules) = modulesOf db a := by
    refine (Query.rows_of_multiplicity_le_one rfl fun row => ?_).trans ?_
    · simp only [snapshotQuery, Query.multiplicity, Query.filter, Query.selectForUpdate,
        Query.selectRelated, Query.all, List.nil_append, List.map_cons, List.map_nil,
        List.prod_singleton]
      split_ifs <;> simp
    · refine List.filter_congr fun row _ => ?_
      exact (Query.selects_filter Query.all _ row).trans (Bool.true_and _)
  rw [snapshotApplication, select, hrows]
  rfl

theorem getOr404_plain {engine : Engine} (h : db.applications.lookup id = some a) :
    getOr404 engine Query.all.selectForUpdate db.applications id = .ok a :=
  getOr404_eq h rfl (fun p => rows_plain rfl rfl p _) (.inr rfl)

theorem getOr404_unlocked {engine : Engine} (h : db.applications.lookup id = some a) :
    getOr404 engine (applicationQuery db {}) db.applications id = .ok a :=
  getOr404_eq h rfl (rows_dedup _ rfl) (.inr rfl)

theorem snapshotApplication_postgresql :
    snapshotApplication .postgresql db id a = .error (.database .notSupported) := rfl

theorem finish_bigint {n : ℕ} {resp : Response} {db' : Database} :
    finish db (do bigint n; .ok (resp, db')) =
      if n < 2 ^ 63 then (resp, db') else (answer 500 .empty, db) := by
  unfold bigint
  by_cases hn : n < 2 ^ 63
  · rw [decide_eq_true hn, if_pos hn]
    rfl
  · rw [decide_eq_false hn, if_neg hn]
    rfl

/-- The write gives its resource the next revision. -/
def Write.advances (db : Database) : Write → Bool
  | .updateApplication .. | .publishVersion .. | .updateDataset .. => true
  | .deleteApplication _ | .deleteDataset _ => false
  | .setMembership id attach moduleId =>
    (db.applications.lookup id).any fun a => attach != decide (moduleId ∈ a.modules)

/-- The next revision can be stored, if the write needs one. -/
def Write.Storable (db : Database) (r : ℕ) (w : Write) : Prop :=
  w.advances db = true → r + 1 < 2 ^ 63

instance (w : Write) : Decidable (w.Storable db r) := inferInstanceAs (Decidable (_ → _))

/-- **SQLite carries a current write out**, as long as the next revision can be stored. -/
theorem handle_sqlite {w : Write} (hstaff : user.isStaff = true) (hpos : 0 < r) (hr : r < 2 ^ 63)
    (h : w.Current db r) : ∃ resp : Response, resp.isSuccess = true ∧
      w.handle .sqlite locale user db now (some (revisionEtag r)) =
        if w.Storable db r then (resp, w.committed db now) else (answer 500 .empty, db) := by
  have hrevision := expectedRevision_etag hpos hr
  cases w <;> simp only [Write.handle, requireStaff, hstaff, ensure_true, ok_bind]
  case updateApplication id patch body =>
    obtain ⟨a, ha, rfl, hbody⟩ := h
    refine ⟨applicationResponse id { a with toEntry := a.toEntry.assign body now }, rfl, ?_⟩
    simp only [Catalogue.updateApplication, hrevision, ok_bind,
      lockApplication_sqlite ha, hbody, Write.Storable, Write.advances, forall_const,
      Write.committed, ha]
    exact finish_bigint
  case deleteApplication id =>
    obtain ⟨a, ha, rfl, hfree⟩ := h
    refine ⟨answer 204 .empty, rfl, ?_⟩
    simp only [destroyApplication, hrevision, ok_bind,
      lockApplication_sqlite ha, hfree, decide_false, Bool.not_false]
    rfl
  case setMembership id attach moduleId =>
    obtain ⟨a, ha, rfl, hmodule⟩ := h
    simp only [updateModuleMembership, hmodule,
      hrevision, ok_bind, lockApplication_sqlite ha, Write.Storable,
      Write.advances, ha, Option.any_some, bne_iff_ne, ne_eq, Write.committed]
    -- a membership that is already so is answered without a write
    by_cases hsame : attach = decide (moduleId ∈ a.modules)
    · refine ⟨applicationResponse id a, rfl, ?_⟩
      simp only [hsame, not_true_eq_false, false_implies, if_true]
      rfl
    · refine ⟨applicationResponse id (a.setMember moduleId attach now), rfl, ?_⟩
      simp only [hsame, not_false_eq_true, forall_const, if_false]
      exact finish_bigint
  case publishVersion id body =>
    obtain ⟨a, ha, rfl, hbody, hnew⟩ := h
    refine ⟨⟨201, .version (newVersion body.normalized body.metadata
      (snapshotOf db id a (modulesOf db a)) now), some (revisionEtag (a.revision + 1))⟩, rfl, ?_⟩
    simp only [Catalogue.publishVersion, getOr404_unlocked ha,
      hrevision, ok_bind, hbody, publishImmutableVersion,
      getOr404_plain ha, snapshotApplication_sqlite, hnew, Option.all_some, beq_self_eq_true,
      Write.Storable, Write.advances, forall_const, Write.committed, ha, bind_assoc, pure_bind]
    exact finish_bigint
  case updateDataset id patch body =>
    obtain ⟨d, hd, rfl, hbody⟩ := h
    refine ⟨⟨200, .datasetAdmin id (d.assign body now), some (revisionEtag (d.revision + 1))⟩,
      rfl, ?_⟩
    simp only [Catalogue.updateDataset, hrevision, ok_bind,
      lockDataset_sqlite hstaff hd, hbody, Write.Storable, Write.advances, forall_const,
      Write.committed, hd]
    exact finish_bigint
  case deleteDataset id =>
    obtain ⟨d, hd, rfl⟩ := h
    refine ⟨answer 204 .empty, rfl, ?_⟩
    simp only [destroyDataset, hrevision, ok_bind, lockDataset_sqlite hstaff hd]
    rfl

/-- **PostgreSQL refuses every current write**: the query that it locks is `DISTINCT`, or joins the
profiles with an outer join. -/
theorem handle_postgresql {w : Write} (hstaff : user.isStaff = true) (hpos : 0 < r)
    (hr : r < 2 ^ 63) (h : w.Current db r) :
    w.handle .postgresql locale user db now (some (revisionEtag r)) = (answer 500 .empty, db) := by
  -- every write has a query with FOR UPDATE that PostgreSQL refuses
  have hrevision := expectedRevision_etag hpos hr
  cases w <;> simp only [Write.handle, requireStaff, hstaff, ensure_true, ok_bind]
  case updateApplication id patch body =>
    simp only [Catalogue.updateApplication, hrevision, ok_bind, lockApplication_postgresql]
    rfl
  case deleteApplication id =>
    simp only [destroyApplication, hrevision, ok_bind, lockApplication_postgresql]
    rfl
  case setMembership id attach moduleId =>
    obtain ⟨a, ha, rfl, hmodule⟩ := h
    simp only [updateModuleMembership, hmodule,
      hrevision, ok_bind, lockApplication_postgresql]
    rfl
  case publishVersion id body =>
    obtain ⟨a, ha, rfl, hbody, hnew⟩ := h
    simp only [Catalogue.publishVersion, getOr404_unlocked ha,
      hrevision, ok_bind, hbody, publishImmutableVersion,
      getOr404_plain ha, Option.all_some, beq_self_eq_true, snapshotApplication_postgresql]
    rfl
  case updateDataset id patch body =>
    simp only [Catalogue.updateDataset, hrevision, ok_bind, lockDataset_postgresql hstaff]
    rfl
  case deleteDataset id =>
    simp only [destroyDataset, hrevision, ok_bind, lockDataset_postgresql hstaff]
    rfl

theorem pos_of_current {w : Write} (h : w.Current db r) : 0 < r := by
  cases w with
  | updateApplication | setMembership | publishVersion | deleteApplication =>
    obtain ⟨a, -, rfl, -⟩ := h
    exact a.revision_pos
  | updateDataset | deleteDataset =>
    obtain ⟨d, -, hd⟩ := h
    have := d.revision_pos
    grind

/-- **A write with the current ETag is carried out by SQLite, and never by PostgreSQL.** -/
theorem current_write_carried_out_iff {w : Write} (engine : Engine) (hstaff : user.isStaff = true)
    (hr : r < 2 ^ 63) (h : w.Current db r) :
    w.CarriedOut engine locale user db now (some (revisionEtag r)) ↔
      engine = .sqlite ∧ w.Storable db r := by
  have hpos := pos_of_current h
  cases engine with
  | postgresql =>
    have hrefused : w.handle .postgresql locale user db now (some (revisionEtag r)) =
        (answer 500 .empty, db) := handle_postgresql hstaff hpos hr h
    simp [Write.CarriedOut, hrefused, Response.isSuccess, answer]
  | sqlite =>
    obtain ⟨resp, hresp, hhandle⟩ := handle_sqlite hstaff hpos hr h
    rw [Write.CarriedOut, hhandle]
    by_cases hstore : w.Storable db r
    · simp [hstore, hresp]
    · simp [hstore, Response.isSuccess, answer]

/-! ### An application -/

def sampleApplication : Application where
  toEntry := Entry.create { name := some "Portal", slug := some "portal" } 1
  currentVersion := "0.1.0"
  releasedAt := none
  versions := []

/-- A catalogue with one application. -/
def sampleDatabase : Database := { Database.empty with
  applications := AList.insert 1 sampleApplication ∅
  nextId := 2 }

/-- A change of the description. -/
def describe : Write := .updateApplication 1 true { description := some "Public portal" }

def release : Write := .publishVersion 1 { version := "v1.0.0" }

theorem current_describe : describe.Current sampleDatabase 1 :=
  ⟨sampleApplication, rfl, rfl, by decide +kernel⟩

theorem current_release : release.Current sampleDatabase 1 :=
  ⟨sampleApplication, rfl, rfl, by decide +kernel, rfl⟩

def plainLocale : Locale where
  casefold s := s
  terms s := some [s]
  icontains s t := decide (t.toList <:+: s.toList)
  collate s t := s ≤ t

theorem current_write_carried_out_iff_sample :
    describe.Current sampleDatabase 1 ∧
    describe.CarriedOut .sqlite plainLocale (.token adminTokenUser) sampleDatabase 2
      (some (revisionEtag 1)) :=
  ⟨current_describe, (current_write_carried_out_iff .sqlite rfl (by decide) current_describe).2
    ⟨rfl, fun _ => by decide⟩⟩

/-- On PostgreSQL the change of a description and the publication of a version with the current ETag
both end in a database error. -/
theorem current_write_fails :
    describe.Current sampleDatabase 1 ∧
    describe.handle .postgresql plainLocale (.token adminTokenUser) sampleDatabase 2
      (some (revisionEtag 1)) = (answer 500 .empty, sampleDatabase) ∧
    release.Current sampleDatabase 1 ∧
    release.handle .postgresql plainLocale (.token adminTokenUser) sampleDatabase 2
      (some (revisionEtag 1)) = (answer 500 .empty, sampleDatabase) :=
  ⟨current_describe, handle_postgresql rfl (by decide) (by decide) current_describe,
    current_release, handle_postgresql rfl (by decide) (by decide) current_release⟩

end ArchiDeal.Catalogue
