import ArchiDeal.Lib.Sha256
import ArchiDeal.Lib.Check
import ArchiDeal.Lib.Transition
import Mathlib.Data.List.Sort
import Mathlib.Data.String.Basic

/-!
# Migrations of the device registry

`management_console/migrate.py` applies the migration files that a release packages and keeps a
ledger of them; the history checks of `check_readiness` in `management_console/device_registry.py`
compare the ledger with the files of the running release. `migrated_release_ready` says when a
release that has been migrated is ready and stays ready; `migrated_release_not_ready` is a release
that is migrated successfully and never becomes ready.

The ledger is sorted by the database, whose collation is the parameter `collate`.
-/

namespace ArchiDeal.Registry

open Text Transition

/-! ### Files and rows -/

structure MigrationFile where
  name : String
  sql : String
  deriving DecidableEq

/-- `hashlib.sha256(sql.encode("utf-8")).hexdigest()`. -/
def MigrationFile.checksum (f : MigrationFile) : String := Sha256.hexdigest (encode f.sql.toList)

structure MigrationRow where
  version : String
  checksum : String
  appliedAt : ℕ
  deriving DecidableEq

/-- The rows of `dealiot_schema_migrations`, as they were inserted. -/
abbrev Ledger := List MigrationRow

/-- What a release packages: a directory has one file for each name. -/
structure Release where
  directory : List MigrationFile
  nodup : (directory.map MigrationFile.name).Nodup

/-- `[0-9][0-9][0-9][0-9]_*.sql`. -/
def isMigration (name : String) : Bool :=
  match name.toList with
  | a :: b :: c :: d :: '_' :: rest =>
    digit a && digit b && digit c && digit d && ".sql".toList.isSuffixOf rest
  | _ => false

/-- `MIGRATION_VERSION_PATTERN`. -/
def isVersion (version : String) : Bool :=
  match version.toList with
  | a :: b :: c :: d :: '_' :: rest =>
    digit a && digit b && digit c && digit d && ".sql".toList.isSuffixOf rest &&
      headed alphaDigit (fun c => alphaDigit c || c == '_' || c == '-') 0 rest.length
        (rest.take (rest.length - 4))
  | _ => false

def Release.migrationFiles (r : Release) : List MigrationFile :=
  (r.directory.filter fun f => isMigration f.name).insertionSort fun f g => f.name ≤ g.name

/-! ### The migrator -/

/-- How `apply_migrations` fails. -/
inductive MigrationError
  | nothingPackaged
  | checksumChanged (name : String)
  | sqlFailed (name : String)
  | nameTooLong (name : String)
  deriving DecidableEq

/-- One run of the migrator: its release, the start of its transaction and the texts that the
database executes. -/
structure Migration where
  release : Release
  now : ℕ
  executes : String → Bool

/-- One round of the loop over the files; `known` are the rows from before the loop. -/
def Migration.applyFile (m : Migration) (known ledger : Ledger) (f : MigrationFile) :
    Except MigrationError Ledger :=
  match known.find? fun row => row.version == f.name with
  | some row => do
    ensure (row.checksum == f.checksum) (.checksumChanged f.name)
    pure ledger
  | none => do
    ensure (m.executes f.sql) (.sqlFailed f.name)
    ensure (f.name.length ≤ 255) (.nameTooLong f.name)
    pure (ledger ++ [⟨f.name, f.checksum, m.now⟩])

/-- `apply_migrations`; the transaction is rolled back when it fails. -/
def Migration.applyMigrations (m : Migration) (known : Ledger) : Except MigrationError Ledger := do
  ensure (!m.release.migrationFiles.isEmpty) .nothingPackaged
  m.release.migrationFiles.foldlM (m.applyFile known) known

/-- One step of the database: a run that succeeds. -/
def migrate (ledger : Ledger) (m : Migration) : Option Ledger := (m.applyMigrations ledger).toOption

/-! ### Readiness -/

variable (collate : String → String → Bool)

/-- `ORDER BY applied_at ASC, version ASC`. -/
def MigrationRow.before (a b : MigrationRow) : Prop :=
  a.appliedAt < b.appliedAt ∨ a.appliedAt = b.appliedAt ∧ collate a.version b.version = true

instance (a b : MigrationRow) : Decidable (a.before collate b) :=
  inferInstanceAs (Decidable (_ ∨ _))

def checkHistory (r : Release) (ledger : Ledger) : Except String Unit := do
  let expected := r.migrationFiles
  ensure (!expected.isEmpty) "no DEALIoT registry migrations were packaged"
  let rows := ledger.insertionSort (MigrationRow.before collate)
  let versions := rows.map MigrationRow.version
  let missing := (expected.map MigrationFile.name).filter fun name => !versions.contains name
  ensure missing.isEmpty
    ("the DEALIoT registry schema is behind: " ++ ", ".intercalate missing)
  let changed := expected.filter fun f =>
    !(rows.find? fun row => row.version == f.name).any fun row => row.checksum == f.checksum
  ensure changed.isEmpty ("the DEALIoT registry migration checksum changed: " ++
    ", ".intercalate (changed.map MigrationFile.name))
  ensure (versions.take expected.length == expected.map MigrationFile.name)
    "the DEALIoT registry migration order does not match the packaged migration prefix"
  let forward := rows.drop expected.length
  let malformed := forward.filter fun row => !(isVersion row.version && isHexDigest row.checksum)
  ensure malformed.isEmpty ("the DEALIoT registry has invalid forward migration metadata: " ++
    ", ".intercalate (malformed.map MigrationRow.version))
  let forwardVersions := forward.map MigrationRow.version
  ensure (forwardVersions == forwardVersions.insertionSort (· ≤ ·) &&
      !forwardVersions.any fun v => expected.getLast?.any fun last => decide (v ≤ last.name))
    "the DEALIoT registry forward migrations are not a strictly ordered suffix"

/-! ### Runs in order -/

/-- The files of the release that the ledger does not know. -/
def Migration.newFiles (m : Migration) (ledger : Ledger) : List MigrationFile :=
  m.release.migrationFiles.filter fun f => !ledger.any fun row => row.version == f.name

/-- The run is in order: what it adds comes after everything in the ledger, by name and by time, and
its release knows everything up to its last file. -/
structure Migration.InOrder (m : Migration) (ledger : Ledger) : Prop where
  after : ∀ row ∈ ledger, ∀ f ∈ m.newFiles ledger, row.version < f.name ∧ row.appliedAt ≤ m.now
  complete : ∀ row ∈ ledger, ∀ f ∈ m.release.migrationFiles, row.version ≤ f.name →
    ∃ g ∈ m.release.migrationFiles, g.name = row.version
  /-- The database sorts the names as Python does. -/
  collated : ∀ v w, (∃ f ∈ m.newFiles ledger, f.name = w) →
    (∃ row ∈ ledger, row.version = v) ∨ (∃ f ∈ m.newFiles ledger, f.name = v) →
    v < w → collate v w = true
  named : ∀ f ∈ m.newFiles ledger, isVersion f.name = true

/-- The ledger is sorted by name and by time, and its rows are well formed. -/
structure Sorted (ledger : Ledger) : Prop where
  versions : ledger.Pairwise fun a b => a.version < b.version
  rows : ledger.Pairwise (MigrationRow.before collate)
  formed : ∀ row ∈ ledger, isVersion row.version = true ∧ isHexDigest row.checksum = true

/-- The files of the release are the first rows of the ledger. -/
def Release.Leads (r : Release) (ledger : Ledger) : Prop :=
  ∃ first rest, ledger = first ++ rest ∧
    first.map (fun row => (row.version, row.checksum)) =
      r.migrationFiles.map fun f => (f.name, f.checksum)

variable {collate} {m : Migration} {r : Release} {ledger ledger' : Ledger}

/-! ### What a run does -/

/-- The row of a new file. -/
def Migration.row (m : Migration) (f : MigrationFile) : MigrationRow := ⟨f.name, f.checksum, m.now⟩

theorem foldlM_applyFile {files : List MigrationFile} {known : Ledger}
    (h : files.foldlM (m.applyFile known) ledger = .ok ledger') :
    ledger' = ledger ++ (files.filter fun f => !known.any fun row => row.version == f.name).map
      m.row ∧ ∀ f ∈ files, ∀ row, (known.find? fun row => row.version == f.name) = some row →
        row.checksum = f.checksum := by
  induction files generalizing ledger with
  | nil =>
    cases h
    exact ⟨by simp, nofun⟩
  | cons f files ih =>
    rw [List.foldlM_cons] at h
    obtain ⟨middle, hfile, h⟩ := bind_eq_ok.1 h
    obtain ⟨hrest, hchecksums⟩ := ih h
    rw [List.forall_mem_cons]
    unfold Migration.applyFile at hfile
    cases hfind : known.find? fun row => row.version == f.name with
    | some row =>
      simp only [hfind, bind_eq_ok, ensure_eq_ok, beq_iff_eq] at hfile
      obtain ⟨_, hchecksum, hmiddle⟩ := hfile
      cases hmiddle
      have hknown : (known.any fun row => row.version == f.name) = true := by
        rw [List.any_eq_true]
        exact ⟨row, List.mem_of_find?_eq_some hfind, by simpa using List.find?_some hfind⟩
      refine ⟨by rw [hrest, List.filter_cons_of_neg (by simp [hknown])], ?_, hchecksums⟩
      rintro _ ⟨⟩
      exact hchecksum
    | none =>
      simp only [hfind, bind_eq_ok, ensure_eq_ok] at hfile
      obtain ⟨_, -, _, -, hmiddle⟩ := hfile
      cases hmiddle
      have hknown : (known.any fun row => row.version == f.name) = false := by
        rw [List.any_eq_false]
        simpa using hfind
      refine ⟨?_, nofun, hchecksums⟩
      rw [hrest, List.filter_cons_of_pos (by simp [hknown]), List.map_cons, List.append_assoc]
      rfl

/-- **One run** appends the rows of the new files; the known ones have the recorded checksums. -/
theorem migrate_eq_some (h : migrate ledger m = some ledger') :
    m.release.migrationFiles ≠ [] ∧ ledger' = ledger ++ (m.newFiles ledger).map m.row ∧
      ∀ f ∈ m.release.migrationFiles, ∀ row,
        (ledger.find? fun row => row.version == f.name) = some row → row.checksum = f.checksum := by
  have hok : m.applyMigrations ledger = .ok ledger' := by
    unfold migrate at h
    cases hrun : m.applyMigrations ledger with
    | error e =>
      rw [hrun] at h
      cases h
    | ok l =>
      rw [hrun] at h
      cases h
      rfl
  obtain ⟨_, hfiles, hok⟩ := bind_eq_ok.1 hok
  obtain ⟨hledger, hchecksums⟩ := foldlM_applyFile hok
  refine ⟨?_, hledger, hchecksums⟩
  rintro hnil
  rw [hnil] at hfiles
  cases hfiles

/-! ### Sorted lists -/

/-- A sorted list whose elements are the smallest ones of another sorted list is a
first part of it. -/
theorem prefix_of_sorted {α : Type} [LinearOrder α] {as bs : List α} (ha : as.Pairwise (· < ·))
    (hb : bs.Pairwise (· < ·)) (hsub : ∀ a ∈ as, a ∈ bs)
    (hclosed : ∀ b ∈ bs, ∀ a ∈ as, b ≤ a → b ∈ as) : as <+: bs := by
  induction as generalizing bs with
  | nil => exact List.nil_prefix
  | cons a as ih =>
    cases bs with
    | nil => exact absurd (hsub a (.head _)) List.not_mem_nil
    | cons b bs =>
      rw [List.pairwise_cons] at ha hb
      have hba : b ≤ a := by
        rcases List.mem_cons.1 (hsub a (.head _)) with rfl | hmem
        · exact le_rfl
        · exact (hb.1 a hmem).le
      have hab : a ≤ b := by
        rcases List.mem_cons.1 (hclosed b (.head _) a (.head _) hba) with rfl | hmem
        · exact le_rfl
        · exact (ha.1 b hmem).le
      obtain rfl := le_antisymm hab hba
      rw [List.cons_prefix_cons]
      refine ⟨rfl, ih ha.2 hb.2 (fun c hc => ?_) fun c hc c' hc' hle => ?_⟩
      · exact (List.mem_cons.1 (hsub c (.tail _ hc))).resolve_left (ha.1 c hc).ne'
      · exact (List.mem_cons.1 (hclosed c (.tail _ hc) c' (.tail _ hc') hle)).resolve_left
          (hb.1 c hc).ne'

theorem map_pair_eq {α β γ δ : Type} {f : α → γ} {f' : α → δ} {g : β → γ} {g' : β → δ}
    {xs : List α} {ys : List β} (h : xs.map f = ys.map g)
    (h' : ∀ x ∈ xs, ∀ y ∈ ys, f x = g y → f' x = g' y) :
    xs.map (fun x => (f x, f' x)) = ys.map fun y => (g y, g' y) := by
  induction xs generalizing ys with
  | nil =>
    cases ys with
    | nil => rfl
    | cons y ys => cases h
  | cons x xs ih =>
    cases ys with
    | nil => cases h
    | cons y ys =>
      simp only [List.map_cons, List.cons.injEq] at h
      rw [List.map_cons, List.map_cons, h' x (.head _) y (.head _) h.1, h.1,
        ih h.2 fun a ha b hb => h' a (.tail _ ha) b (.tail _ hb)]

instance : Std.Total fun f g : MigrationFile => f.name ≤ g.name := ⟨fun _ _ => le_total _ _⟩

instance : IsTrans MigrationFile fun f g => f.name ≤ g.name := ⟨fun _ _ _ => le_trans⟩

theorem pairwise_migrationFiles (r : Release) :
    r.migrationFiles.Pairwise fun f g => f.name < g.name := by
  have hsorted : r.migrationFiles.Pairwise fun f g => f.name ≤ g.name :=
    List.pairwise_insertionSort _ _
  have hnodup : (r.migrationFiles.map MigrationFile.name).Nodup := by
    have hperm : (r.migrationFiles.map MigrationFile.name).Perm
        ((r.directory.filter fun f => isMigration f.name).map MigrationFile.name) :=
      (List.perm_insertionSort _ _).map _
    exact hperm.nodup_iff.2 (r.nodup.sublist (List.filter_sublist.map _))
  exact (hsorted.and (List.pairwise_map.1 hnodup)).imp fun h => lt_of_le_of_ne h.1 h.2

theorem find?_version {row : MigrationRow} (h : ledger.Pairwise fun a b => a.version < b.version)
    (hrow : row ∈ ledger) : (ledger.find? fun x => x.version == row.version) = some row := by
  induction ledger with
  | nil => cases hrow
  | cons x ledger ih =>
    rw [List.pairwise_cons] at h
    rcases List.mem_cons.1 hrow with rfl | hmem
    · rw [List.find?_cons_of_pos (by simp)]
    · rw [List.find?_cons_of_neg (by simpa using (h.1 row hmem).ne)]
      exact ih h.2 hmem

/-! ### Steps and runs -/

theorem mem_newFiles {f : MigrationFile} : f ∈ m.newFiles ledger ↔
    f ∈ m.release.migrationFiles ∧ ∀ row ∈ ledger, row.version ≠ f.name := by
  simp [Migration.newFiles]

theorem sorted_append (h : Sorted collate ledger) (ho : m.InOrder collate ledger) :
    Sorted collate (ledger ++ (m.newFiles ledger).map m.row) := by
  have hnew : (m.newFiles ledger).Pairwise fun f g => f.name < g.name :=
    (pairwise_migrationFiles m.release).sublist List.filter_sublist
  refine ⟨?_, ?_, ?_⟩
  · rw [List.pairwise_append, List.pairwise_map]
    refine ⟨h.versions, hnew, fun row hrow x hx => ?_⟩
    obtain ⟨f, hf, rfl⟩ := List.mem_map.1 hx
    exact (ho.after row hrow f hf).1
  · rw [List.pairwise_append, List.pairwise_map]
    refine ⟨h.rows, ?_, fun row hrow x hx => ?_⟩
    · refine List.Pairwise.imp_of_mem (fun hf hg hlt => ?_) hnew
      exact .inr ⟨rfl, ho.collated _ _ ⟨_, hg, rfl⟩ (.inr ⟨_, hf, rfl⟩) hlt⟩
    · obtain ⟨f, hf, rfl⟩ := List.mem_map.1 hx
      obtain ⟨hversion, htime⟩ := ho.after row hrow f hf
      rcases htime.lt_or_eq with hlt | heq
      · exact .inl hlt
      · exact .inr ⟨heq, ho.collated _ _ ⟨f, hf, rfl⟩ (.inl ⟨row, hrow, rfl⟩) hversion⟩
  · intro row hrow
    rcases List.mem_append.1 hrow with hold | hnew
    · exact h.formed row hold
    · obtain ⟨f, hf, rfl⟩ := List.mem_map.1 hnew
      exact ⟨ho.named f hf, Sha256.isHexDigest_hexdigest _⟩

/-- A run in order leaves the files of its release as the first rows of the ledger. -/
theorem leads_of_migrate (h : Sorted collate ledger) (ho : m.InOrder collate ledger)
    (hstep : migrate ledger m = some ledger') : m.release.Leads ledger' := by
  obtain ⟨-, rfl, hchecksums⟩ := migrate_eq_some hstep
  have hsorted := sorted_append h ho
  set ledger' := ledger ++ (m.newFiles ledger).map m.row with hledger'
  have hprefix : m.release.migrationFiles.map MigrationFile.name <+:
      ledger'.map MigrationRow.version := by
    refine prefix_of_sorted (List.pairwise_map.2 (pairwise_migrationFiles _))
      (List.pairwise_map.2 hsorted.versions) ?_ ?_
    · -- every file is in the ledger afterwards
      intro name hname
      obtain ⟨f, hf, rfl⟩ := List.mem_map.1 hname
      by_cases hknown : ∃ row ∈ ledger, row.version = f.name
      · obtain ⟨row, hrow, heq⟩ := hknown
        exact heq ▸ List.mem_map_of_mem (List.mem_append_left _ hrow)
      · have hf' : f ∈ m.newFiles ledger :=
          mem_newFiles.2 ⟨hf, fun row hrow heq => hknown ⟨row, hrow, heq⟩⟩
        exact List.mem_map.2
          ⟨m.row f, List.mem_append_right _ (List.mem_map_of_mem hf'), rfl⟩
    · -- nothing else is, up to the last file
      intro v hv name hname hle
      obtain ⟨f, hf, rfl⟩ := List.mem_map.1 hname
      obtain ⟨row, hrow, rfl⟩ := List.mem_map.1 hv
      rcases List.mem_append.1 hrow with hold | hnew
      · obtain ⟨g, hg, heq⟩ := ho.complete row hold f hf hle
        exact heq ▸ List.mem_map_of_mem hg
      · obtain ⟨g, hg, rfl⟩ := List.mem_map.1 hnew
        exact List.mem_map_of_mem (mem_newFiles.1 hg).1
  have hsame : ∀ row ∈ ledger', ∀ f ∈ m.release.migrationFiles, row.version = f.name →
      row.checksum = f.checksum := by
    intro row hrow f hf heq
    rcases List.mem_append.1 hrow with hold | hnew
    · exact hchecksums f hf row (heq ▸ find?_version h.versions hold)
    · obtain ⟨g, hg, rfl⟩ := List.mem_map.1 hnew
      have hfg : g = f := by
        refine List.inj_on_of_nodup_map (f := MigrationFile.name) ?_ (mem_newFiles.1 hg).1 hf heq
        exact (List.pairwise_map.2 (pairwise_migrationFiles m.release)).imp fun hlt => hlt.ne
      rw [← hfg]
      rfl
  obtain ⟨rest, hrest⟩ := hprefix
  refine ⟨ledger'.take m.release.migrationFiles.length,
    ledger'.drop m.release.migrationFiles.length, (List.take_append_drop _ _).symm, ?_⟩
  refine map_pair_eq ?_ fun row hrow f hf => hsame row (List.mem_of_mem_take hrow) f hf
  rw [List.map_take, ← hrest, List.take_left' (List.length_map _)]

theorem Release.Leads.append {more : Ledger} (h : r.Leads ledger) : r.Leads (ledger ++ more) := by
  obtain ⟨first, rest, rfl, hfirst⟩ := h
  exact ⟨first, rest ++ more, List.append_assoc _ _ _, hfirst⟩

/-- **A release whose files lead a sorted ledger is ready.** -/
theorem checkHistory_of_leads (h : Sorted collate ledger) (hfiles : r.migrationFiles ≠ [])
    (hleads : r.Leads ledger) : checkHistory collate r ledger = .ok () := by
  obtain ⟨first, rest, rfl, hfirst⟩ := hleads
  -- the ledger begins with the files of the release; `rest` is newer
  have hnames : first.map MigrationRow.version = r.migrationFiles.map MigrationFile.name := by
    have := congrArg (List.map Prod.fst) hfirst
    rwa [List.map_map, List.map_map] at this
  have hlength : first.length = r.migrationFiles.length := by
    have := congrArg List.length hnames
    rwa [List.length_map, List.length_map] at this
  have hrow : ∀ f ∈ r.migrationFiles, ∃ row ∈ first, row.version = f.name ∧
      row.checksum = f.checksum := by
    intro f hf
    have hmem : (f.name, f.checksum) ∈ first.map fun row => (row.version, row.checksum) := by
      rw [hfirst]
      exact List.mem_map.2 ⟨f, hf, rfl⟩
    obtain ⟨row, hmem, heq⟩ := List.mem_map.1 hmem
    exact ⟨row, hmem, congrArg Prod.fst heq, congrArg Prod.snd heq⟩
  -- what each check of `checkHistory` computes, in its order
  have hmissing : ((r.migrationFiles.map MigrationFile.name).filter fun name =>
      !((first ++ rest).map MigrationRow.version).contains name) = [] := by
    rw [List.filter_eq_nil_iff, ← hnames]
    intro v hv
    simp only [List.map_append, Bool.not_eq_true', Bool.not_eq_false, List.contains_iff_mem]
    exact List.mem_append_left _ hv
  have hchanged : (r.migrationFiles.filter fun f =>
      !((first ++ rest).find? fun row => row.version == f.name).any
        fun row => row.checksum == f.checksum) = [] := by
    rw [List.filter_eq_nil_iff]
    intro f hf
    obtain ⟨row, hmem, hversion, hchecksum⟩ := hrow f hf
    rw [← hversion, find?_version h.versions (List.mem_append_left _ hmem)]
    simp [hchecksum]
  have hforward : ∀ row ∈ rest, ∀ f ∈ r.migrationFiles, f.name < row.version := by
    intro row hmem f hf
    obtain ⟨row', hmem', hversion, -⟩ := hrow f hf
    rw [← hversion]
    exact (List.pairwise_append.1 h.versions).2.2 row' hmem' row hmem
  have hmalformed : (rest.filter fun row =>
      !(isVersion row.version && isHexDigest row.checksum)) = [] := by
    rw [List.filter_eq_nil_iff]
    intro row hmem
    obtain ⟨hversion, hchecksum⟩ := h.formed row (List.mem_append_right _ hmem)
    simp [hversion, hchecksum]
  have hsuffix : (rest.map MigrationRow.version).insertionSort (· ≤ ·) =
      rest.map MigrationRow.version := by
    refine List.Pairwise.insertionSort_eq (List.pairwise_map.2 ?_)
    exact (List.pairwise_append.1 h.versions).2.1.imp fun hlt => hlt.le
  have hstrict : ((rest.map MigrationRow.version).any fun v =>
      r.migrationFiles.getLast?.any fun last => decide (v ≤ last.name)) = false := by
    rw [List.any_eq_false]
    intro v hv
    obtain ⟨row, hmem, rfl⟩ := List.mem_map.1 hv
    cases hlast : r.migrationFiles.getLast? with
    | none => simp
    | some last =>
      simpa using hforward row hmem last (List.mem_of_getLast? hlast)
  have hpacked : (!r.migrationFiles.isEmpty) = true := by
    simpa using hfiles
  have htake : ((first ++ rest).map MigrationRow.version).take r.migrationFiles.length =
      r.migrationFiles.map MigrationFile.name := by
    rw [List.map_append, hnames, List.take_left' (List.length_map _)]
  have hdrop : (first ++ rest).drop r.migrationFiles.length = rest := List.drop_left' hlength
  simp only [checkHistory, hpacked, ensure_true, ok_bind, h.rows.insertionSort_eq, hmissing,
    hchanged, List.isEmpty_nil, htake, hdrop, beq_self_eq_true, hmalformed, hsuffix, hstrict,
    Bool.not_false, Bool.and_self]

/-- **A migrated release is ready and stays ready**, in runs of the migrator that are in order:
whatever later releases have been migrated, the history checks of the release accept. -/
theorem migrated_release_ready {before after later : Ledger}
    (run : Reach migrate (fun l m => m.InOrder collate l) [] before)
    (hstep : migrate before m = some after) (ho : m.InOrder collate before)
    (more : Reach migrate (fun l m => m.InOrder collate l) after later) :
    checkHistory collate m.release later = .ok () := by
  have hsorted : ∀ {s t : Ledger}, Reach migrate (fun l m => m.InOrder collate l) s t →
      Sorted collate s → Sorted collate t := by
    intro s t hrun hs
    refine hrun.invariant (Sorted collate) hs fun _ ha hok hnext => ?_
    obtain ⟨-, rfl, -⟩ := migrate_eq_some hnext
    exact sorted_append ha hok
  have hbefore : Sorted collate before := hsorted run ⟨.nil, .nil, nofun⟩
  have hafter : Sorted collate after := hsorted (.single ho hstep) hbefore
  refine checkHistory_of_leads (hsorted more hafter) (migrate_eq_some hstep).1 ?_
  refine more.invariant m.release.Leads (leads_of_migrate hbefore ho hstep) fun _ ha _ hnext => ?_
  obtain ⟨-, rfl, -⟩ := migrate_eq_some hnext
  exact ha.append

/-! ### Releases -/

def byCodePoints (v w : String) : Bool := decide (v ≤ w)

def tableFile : MigrationFile := ⟨"0001_registry.sql", "CREATE TABLE devices (device_id text)"⟩

/-- A file that the first release does not package. -/
def labelsFile : MigrationFile := ⟨"0002_labels.sql", "ALTER TABLE devices ADD labels jsonb"⟩

/-- A file with a later number. -/
def settingsFile : MigrationFile := ⟨"0003_settings.sql", "ALTER TABLE devices ADD settings jsonb"⟩

/-- A run of a release at a time, every text of which is executed. -/
def runOf (release : Release) (now : ℕ) : Migration := ⟨release, now, fun _ => true⟩

/-- The release with the first file only. -/
def tableRelease : Release := ⟨[tableFile], by decide⟩

/-- A release with two files. -/
def settingsRelease : Release := ⟨[tableFile, settingsFile], by decide⟩

/-- A later release that adds a file between them. -/
def labelsRelease : Release := ⟨[tableFile, labelsFile, settingsFile], by decide⟩

theorem inOrder_table : (runOf tableRelease 1).InOrder byCodePoints [] := by
  have hnew : (runOf tableRelease 1).newFiles [] = [tableFile] := by decide +kernel
  refine ⟨nofun, nofun, fun v w hw hv hlt => decide_eq_true hlt.le, ?_⟩
  rw [hnew]
  decide +kernel

theorem inOrder_settings : (runOf settingsRelease 2).InOrder byCodePoints
    [(runOf tableRelease 1).row tableFile] := by
  have hnew : (runOf settingsRelease 2).newFiles [(runOf tableRelease 1).row tableFile] =
      [settingsFile] := by decide +kernel
  have hfiles : (runOf settingsRelease 2).release.migrationFiles = [tableFile, settingsFile] := by
    decide +kernel
  refine ⟨?_, ?_, fun v w hw hv hlt => decide_eq_true hlt.le, ?_⟩
  · rw [hnew]
    simp only [List.mem_singleton, forall_eq]
    exact ⟨by decide +kernel, by decide⟩
  · rw [hfiles]
    simp only [List.mem_singleton, forall_eq]
    exact fun _ _ _ => ⟨tableFile, .head _, rfl⟩
  · rw [hnew]
    decide +kernel

theorem migrated_release_ready_sample : ∃ l l', migrate [] (runOf tableRelease 1) = some l ∧
    migrate l (runOf settingsRelease 2) = some l' ∧
    checkHistory byCodePoints tableRelease l' = .ok () := by
  have hfirst : migrate [] (runOf tableRelease 1) =
    some [(runOf tableRelease 1).row tableFile] := by
    decide +kernel
  have hsecond : migrate [(runOf tableRelease 1).row tableFile] (runOf settingsRelease 2) =
      some [(runOf tableRelease 1).row tableFile, (runOf settingsRelease 2).row settingsFile] := by
    decide +kernel
  have hready := migrated_release_ready .refl hfirst inOrder_table
    (.single inOrder_settings hsecond)
  exact ⟨_, _, hfirst, hsecond, hready⟩

/-- A later release packages a file with a number between those of an earlier one. Its migration
succeeds, and neither release is ready afterwards. -/
theorem migrated_release_not_ready : ∃ l l',
    (∀ f ∈ settingsRelease.directory, f ∈ labelsRelease.directory) ∧
    migrate [] (runOf settingsRelease 1) = some l ∧ migrate l (runOf labelsRelease 2) = some l' ∧
    checkHistory byCodePoints labelsRelease l' ≠ .ok () ∧
    checkHistory byCodePoints settingsRelease l' ≠ .ok () := by
  refine ⟨[(runOf settingsRelease 1).row tableFile, (runOf settingsRelease 1).row settingsFile],
    [(runOf settingsRelease 1).row tableFile, (runOf settingsRelease 1).row settingsFile,
      (runOf labelsRelease 2).row labelsFile], ?_, ?_, ?_, ?_, ?_⟩
  all_goals decide +kernel

end ArchiDeal.Registry
