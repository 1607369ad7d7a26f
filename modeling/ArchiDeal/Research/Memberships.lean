import ArchiDeal.Lib.Clients
import Mathlib.Data.Fintype.Basic

/-!
# Owners of research projects

`Project` and `ProjectMembership` of `core_data/models.py`. `ProjectMembership.clean` refuses to end
the last active ownership of a project; `save` calls it before the row is written. A client saves or
deletes a membership or deletes a user; a save takes one query after the other, and every query sees
the rows that are committed at that time.

`project_keeps_owner`: a project that has an active owner keeps one, in every run in which the steps
that end an ownership are careful. Without the condition a project is left without an owner
(`project_loses_owner`): `clean` is not called when a membership or its user is deleted, it looks
for other owners in the project that the membership moves to, and it does not lock what it has read.
-/

namespace ArchiDeal.Research

open Transition

/-! ### Models -/

inductive ProjectRole
  | owner
  | advisor
  | scientist
  | technician
  | viewer
  | none
  deriving DecidableEq

/-- The columns of `Project` that the rules read. -/
structure Project where
  id : ℕ
  primaryOwner : ℕ
  deriving DecidableEq

/-- A row of `ProjectMembership`, without its timestamps. -/
structure Membership where
  id : ℕ
  project : ℕ
  user : ℕ
  role : ProjectRole
  isActive : Bool
  deriving DecidableEq

/-- The committed rows. -/
structure Database where
  projects : List Project
  users : List ℕ
  memberships : List Membership
  deriving DecidableEq

def Membership.isOwner (m : Membership) : Bool := m.role == .owner && m.isActive

/-- An active owner of the project. -/
def Membership.owns (m : Membership) (project : ℕ) : Bool := m.project == project && m.isOwner

def Database.hasProject (db : Database) (project : ℕ) : Bool :=
  db.projects.any fun p => p.id == project

/-- The project has an active owner. -/
def Database.owned (db : Database) (project : ℕ) : Bool :=
  db.memberships.any fun m => m.owns project

/-! ### Saving -/

/-- The fields that `update_fields` may name. -/
inductive Field
  | project
  | user
  | role
  | isActive
  deriving DecidableEq

structure SaveArgs where
  forceInsert : Bool := false
  forceUpdate : Bool := false
  updateFields : Option (List Field) := none
  deriving DecidableEq

/-- A `ProjectMembership` object in memory; `role` is `none` if it is no choice of the field. -/
structure Object where
  id : ℕ
  /-- `_state.adding`: the object was not loaded from the database. -/
  adding : Bool
  project : Option ℕ
  user : Option ℕ
  role : Option ProjectRole
  isActive : Bool
  deriving DecidableEq

/-- A save under way: the values that have passed `clean_fields`, and how they are written. -/
structure Save where
  row : Membership
  adding : Bool
  args : SaveArgs
  deriving DecidableEq

inductive SaveError
  /-- A `ValidationError` of a field or of a unique constraint. -/
  | invalid
  /-- The `ValidationError` of `clean`. -/
  | lastOwner (message : String)
  | integrityError
  /-- No row was updated. -/
  | databaseError
  /-- `Cannot force both insert and updating in model saving.` -/
  | valueError
  /-- The user is the primary owner of a project. -/
  | protectedError
  deriving DecidableEq

/-- `clean_fields`: the references are to existing rows, the role is a choice. -/
def Object.cleanFields (db : Database) (o : Object) : Option Membership := do
  let project ← o.project.filter db.hasProject
  let user ← o.user.filter (db.users.contains ·)
  let role ← o.role
  return ⟨o.id, project, user, role, o.isActive⟩

def Database.wasOwner (db : Database) (id : ℕ) : Bool :=
  (db.memberships.find? fun m => m.id == id).any Membership.isOwner

def Database.remaining (db : Database) (row : Membership) : Bool :=
  db.memberships.any fun m => m.owns row.project && m.id != row.id

def Save.validateUnique (db : Database) (s : Save) : Bool :=
  db.memberships.all fun m =>
    !(s.adding && m.id == s.row.id) &&
      !(m.project == s.row.project && m.user == s.row.user && (s.adding || m.id != s.row.id))

/-- The constraints of the table let the row in. -/
def Database.admits (db : Database) (row : Membership) : Bool :=
  db.hasProject row.project && db.users.contains row.user &&
    db.memberships.all fun m => m.id == row.id || !(m.project == row.project && m.user == row.user)

/-- The row after `UPDATE` with the written fields. -/
def SaveArgs.merge (args : SaveArgs) (old row : Membership) : Membership :=
  let written (f : Field) : Bool := args.updateFields.all (·.contains f)
  { id := old.id
    project := if written .project then row.project else old.project
    user := if written .user then row.user else old.user
    role := if written .role then row.role else old.role
    isActive := if written .isActive then row.isActive else old.isActive }

/-- `Model.save`: an `UPDATE`, and an `INSERT` if there is no row. An object that was not loaded is
inserted at once, because the primary key has a default. -/
def Save.write (db : Database) (s : Save) : Except SaveError Database :=
  let args := s.args
  if args.forceInsert && (args.forceUpdate || args.updateFields.any (!·.isEmpty)) then
    .error .valueError
  else if args.updateFields = some [] then .ok db
  else if args.forceInsert || (!args.forceUpdate && s.adding) then
    if db.memberships.any (·.id == s.row.id) || !db.admits s.row then .error .integrityError
    else .ok { db with memberships := db.memberships ++ [s.row] }
  else
    match db.memberships.find? (·.id == s.row.id) with
    | some old =>
      if db.admits (args.merge old s.row) then
        .ok { db with
          memberships := db.memberships.map fun m =>
            if m.id = s.row.id then args.merge m s.row else m }
      else .error .integrityError
    | none =>
      if args.forceUpdate || args.updateFields.isSome then .error .databaseError
      else if db.admits s.row then .ok { db with memberships := db.memberships ++ [s.row] }
      else .error .integrityError

/-! ### Clients -/

/-- Where a client is. -/
inductive Pc
  /-- Between two operations; the last one may have raised an error. -/
  | ready (error : Option SaveError)
  | cleanFields (o : Object) (args : SaveArgs)
  /-- In `clean`, before the old row is read. -/
  | readOld (s : Save)
  /-- In `clean`, before the remaining owners are counted. -/
  | countOwners (s : Save)
  /-- After `clean`, which has read the row as that of an active owner or not. -/
  | validateUnique (s : Save) (wasOwner : Bool)
  | write (s : Save) (wasOwner : Bool)
  deriving DecidableEq

/-- What a client does next. -/
inductive Choice
  | save (o : Object) (args : SaveArgs)
  | deleteMembership (id : ℕ)
  | deleteUser (user : ℕ)
  | deleteProject (project : ℕ)
  /-- The next query of the save. -/
  | next
  deriving DecidableEq

/-- `clean`, from its first query on. -/
def Save.clean (db : Database) (s : Save) : Pc :=
  let wasOwner := db.wasOwner s.row.id
  if wasOwner && !s.row.isOwner then .countOwners s else .validateUnique s wasOwner

/-- The next query of a save. -/
def query (db : Database) : Pc → Option (Database × Pc)
  | .ready _ => none
  | .cleanFields o args =>
    match o.cleanFields db with
    | some row => some (db, .readOld ⟨row, o.adding, args⟩)
    | none => some (db, .ready (some .invalid))
  | .readOld s => some (db, s.clean db)
  | .countOwners s =>
    if db.remaining s.row then some (db, .validateUnique s true)
    else some (db, .ready (some (.lastOwner "A project must have at least one active owner.")))
  | .validateUnique s wasOwner =>
    if s.validateUnique db then some (db, .write s wasOwner)
    else some (db, .ready (some .invalid))
  | .write s _ =>
    match s.write db with
    | .ok db' => some (db', .ready none)
    | .error e => some (db, .ready (some e))

/-- An action of a client. -/
def act (db : Database) (pc : Pc) : Choice → Option (Database × Pc)
  | .next => query db pc
  | .save o args =>
    match pc with
    | .ready _ => some (db, .cleanFields o args)
    | _ => none
  | .deleteMembership id =>
    match pc with
    | .ready _ => some ({ db with memberships := db.memberships.filter (·.id != id) }, .ready none)
    | _ => none
  | .deleteUser user =>
    match pc with
    | .ready _ =>
      if db.projects.any (·.primaryOwner == user) then some (db, .ready (some .protectedError))
      else
        some ({ db with
          users := db.users.filter (· != user)
          memberships := db.memberships.filter (·.user != user) }, .ready none)
    | _ => none
  | .deleteProject project =>
    match pc with
    | .ready _ =>
      some ({ db with
        projects := db.projects.filter (·.id != project)
        memberships := db.memberships.filter (·.project != project) }, .ready none)
    | _ => none

/-- The system. -/
abbrev State (W : Type) := Clients.State W Database Pc

section System

variable {W : Type} [DecidableEq W]

abbrev step : State W → W × Choice → Option (State W) := Clients.step act

/-! ### The condition -/

/-- The action ends the active ownership `m`. -/
def Takes (db : Database) (pc : Pc) (m : Membership) : Choice → Bool
  | .deleteMembership id => m.id == id
  | .deleteUser user => m.user == user && !db.projects.any (·.primaryOwner == user)
  | .next =>
    match pc with
    | .write s _ => m.id == s.row.id && !(s.args.merge m s.row).owns m.project
    | _ => false
  | _ => false

/-- A save that writes a row of the project: `clean` has looked for other owners in this one. -/
def Pc.writes (pc : Pc) (project : ℕ) : Bool :=
  match pc with
  | .write s _ => s.row.project == project
  | _ => false

/-- `clean` has let a save pass that ends an ownership of the project. -/
def Pc.demotes (pc : Pc) (project : ℕ) : Bool :=
  match pc with
  | .validateUnique s wasOwner => wasOwner && !s.row.isOwner && s.row.project == project
  | .write s wasOwner => wasOwner && !s.row.isOwner && s.row.project == project
  | _ => false

/-- A step that ends an active ownership is careful. -/
structure Careful (s : State W) (l : W × Choice) : Prop where
  /-- No other client is about to end an ownership of the same project. -/
  alone : ∀ m ∈ s.store.memberships, m.isOwner = true → Takes s.store (s.pc l.1) m l.2 = true →
    ∀ v, v ≠ l.1 → (s.pc v).demotes m.project = false
  /-- A save within the project has read the row as that of an active owner. -/
  fresh : ∀ m ∈ s.store.memberships, m.isOwner = true → Takes s.store (s.pc l.1) m l.2 = true →
    (s.pc l.1).writes m.project = true → (s.pc l.1).demotes m.project = true
  /-- A deletion, or a save that moves the membership, leaves another active owner. -/
  spares : ∀ m ∈ s.store.memberships, m.isOwner = true → Takes s.store (s.pc l.1) m l.2 = true →
    (s.pc l.1).writes m.project = false →
    ∃ m' ∈ s.store.memberships, m'.owns m.project = true ∧ Takes s.store (s.pc l.1) m' l.2 = false

instance [Fintype W] (s : State W) (l : W × Choice) : Decidable (Careful s l) :=
  decidable_of_iff (_ ∧ _ ∧ _) ⟨fun h => ⟨h.1, h.2.1, h.2.2⟩, fun h => ⟨h.alone, h.fresh, h.spares⟩⟩

end System

/-! ### What an action does -/

section Actions

variable {db db' : Database} {pc pc' : Pc} {c : Choice} {m : Membership} {p : ℕ}

/-- A save changes the rows with its identifier, or adds one, or changes nothing. -/
theorem write_cases {s : Save} (h : s.write db = .ok db') :
    db' = db ∨ (∃ row, db' = { db with memberships := db.memberships ++ [row] }) ∨
      db' = { db with
        memberships := db.memberships.map fun m =>
          if m.id = s.row.id then s.args.merge m s.row else m } := by
  simp only [Save.write] at h
  split at h
  · cases h
  split at h
  · cases h
    exact .inl rfl
  split at h
  · split at h
    · cases h
    · cases h
      exact .inr (.inl ⟨_, rfl⟩)
  split at h
  · split at h
    · cases h
      exact .inr (.inr rfl)
    · cases h
  · split at h
    · cases h
    split at h
    · cases h
      exact .inr (.inl ⟨_, rfl⟩)
    · cases h

/-- A query of a save leaves the rows alone, but for the last one, which writes. -/
theorem query_cases (h : query db pc = some (db', pc')) :
    db' = db ∨ ∃ s wasOwner, pc = .write s wasOwner ∧ s.write db = .ok db' := by
  cases pc with
  | ready error => cases h
  | write s wasOwner =>
    simp only [query] at h
    split at h
    · cases h
      exact .inr ⟨s, wasOwner, rfl, ‹_›⟩
    · cases h
      exact .inl rfl
  | readOld s =>
    cases h
    exact .inl rfl
  | cleanFields | countOwners | validateUnique =>
    simp only [query] at h
    split at h <;> cases h <;> exact .inl rfl

/-- What an action does to the rows. -/
inductive Effect (db : Database) (pc : Pc) : Choice → Database → Prop
  | unchanged (c : Choice) : Effect db pc c db
  | added (c : Choice) (row : Membership) :
      Effect db pc c { db with memberships := db.memberships ++ [row] }
  | merged (s : Save) (wasOwner : Bool) (hpc : pc = .write s wasOwner) :
      Effect db pc .next { db with
        memberships := db.memberships.map fun m =>
          if m.id = s.row.id then s.args.merge m s.row else m }
  | membership (id : ℕ) :
      Effect db pc (.deleteMembership id) { db with
        memberships := db.memberships.filter (·.id != id) }
  | user (user : ℕ) (h : db.projects.any (·.primaryOwner == user) = false) :
      Effect db pc (.deleteUser user) { db with
        users := db.users.filter (· != user)
        memberships := db.memberships.filter (·.user != user) }
  | project (project : ℕ) :
      Effect db pc (.deleteProject project) { db with
        projects := db.projects.filter (·.id != project)
        memberships := db.memberships.filter (·.project != project) }

theorem effect_of_act (h : act db pc c = some (db', pc')) : Effect db pc c db' := by
  cases c with
  | next =>
    rcases query_cases h with rfl | ⟨s, wasOwner, rfl, hwrite⟩
    · exact .unchanged _
    · rcases write_cases hwrite with rfl | ⟨row, rfl⟩ | rfl
      · exact .unchanged _
      · exact .added _ row
      · exact .merged s wasOwner rfl
  | save o args =>
    simp only [act] at h
    split at h <;> cases h
    exact .unchanged _
  | deleteMembership id =>
    simp only [act] at h
    split at h <;> cases h
    exact .membership id
  | deleteUser user =>
    simp only [act] at h
    split at h
    · split at h
      · cases h
        exact .unchanged _
      · rename_i hfree
        cases h
        exact .user user (by simpa using hfree)
    · cases h
  | deleteProject project =>
    simp only [act] at h
    split at h <;> cases h
    exact .project project

theorem Effect.hasProject (h : Effect db pc c db') (hp : db'.hasProject p = true) :
    db.hasProject p = true := by
  cases h with
  | unchanged => exact hp
  | added => exact hp
  | merged => exact hp
  | membership => exact hp
  | user => exact hp
  | project project =>
    simp only [Database.hasProject, List.any_filter, List.any_eq_true, Bool.and_eq_true] at hp ⊢
    obtain ⟨q, hq, -, hid⟩ := hp
    exact ⟨q, hq, hid⟩

/-- **An active ownership that an action does not take survives it**, as long as
the project does. -/
theorem Effect.survives (h : Effect db pc c db') (hm : m ∈ db.memberships) (howns : m.owns p = true)
    (htakes : Takes db pc m c = false) (hp : db'.hasProject p = true) :
    ∃ m' ∈ db'.memberships, m'.id = m.id ∧ m'.owns p = true := by
  have hproject : m.project = p := by
    simp only [Membership.owns, Bool.and_eq_true, beq_iff_eq] at howns
    exact howns.1
  cases h with
  | unchanged => exact ⟨m, hm, rfl, howns⟩
  | added => exact ⟨m, List.mem_append_left _ hm, rfl, howns⟩
  | merged s wasOwner hpc =>
    subst hpc
    refine ⟨_, List.mem_map.2 ⟨m, hm, rfl⟩, ?_⟩
    by_cases hid : m.id = s.row.id
    · simp only [Takes, hid, beq_self_eq_true, Bool.true_and, Bool.not_eq_false',
        hproject] at htakes
      rw [if_pos hid]
      exact ⟨rfl, htakes⟩
    · rw [if_neg hid]
      exact ⟨rfl, howns⟩
  | membership id =>
    refine ⟨m, List.mem_filter.2 ⟨hm, ?_⟩, rfl, howns⟩
    simpa [Takes] using htakes
  | user user hfree =>
    refine ⟨m, List.mem_filter.2 ⟨hm, ?_⟩, rfl, howns⟩
    simpa [Takes, hfree] using htakes
  | project project =>
    refine ⟨m, List.mem_filter.2 ⟨hm, ?_⟩, rfl, howns⟩
    simp only [Database.hasProject, List.any_filter, List.any_eq_true, Bool.and_eq_true, bne_iff_ne,
      beq_iff_eq] at hp
    obtain ⟨q, -, hne, rfl⟩ := hp
    simpa [hproject] using hne

end Actions

/-! ### The invariant -/

/-- The identifier of the row that a save is about to write. -/
def Pc.rowId : Pc → Option ℕ
  | .validateUnique s _ => some s.row.id
  | .write s _ => some s.row.id
  | _ => none

/-- While a save that ends an ownership is under way, another active owner is stored. -/
def Asserts (db : Database) (pc : Pc) : Prop :=
  ∀ p, pc.demotes p = true → db.hasProject p = true →
    ∃ m ∈ db.memberships, m.owns p = true ∧ some m.id ≠ pc.rowId

section Invariant

variable {db db' : Database} {pc pc' : Pc} {c : Choice} {m : Membership} {p : ℕ}

theorem owns_iff : m.owns p = true ↔ m.project = p ∧ m.isOwner = true := by
  simp [Membership.owns]

/-- `clean` lets a save pass that ends an ownership only if another active owner remains. -/
theorem asserts_clean (s : Save) : Asserts db (s.clean db) := by
  intro p hdemotes
  unfold Save.clean at hdemotes
  simp only at hdemotes
  split at hdemotes
  · cases hdemotes
  · rename_i hkeeps
    simp only [Pc.demotes, Bool.and_eq_true] at hdemotes
    exact absurd (by simpa using hdemotes.1) hkeeps

/-- The queries before the write establish the assertion and keep it. -/
theorem asserts_query (hasserts : Asserts db pc) (h : query db pc = some (db', pc')) :
    Asserts db' pc' := by
  have hready (db : Database) (error : Option SaveError) : Asserts db (.ready error) :=
    fun p hdemotes => by cases hdemotes
  cases pc with
  | ready error => cases h
  | cleanFields o args =>
    simp only [query] at h
    split at h <;> cases h
    · exact fun p hdemotes => by cases hdemotes
    · exact hready _ _
  | readOld s =>
    cases h
    exact asserts_clean s
  | countOwners s =>
    simp only [query] at h
    split at h <;> cases h
    · rename_i hremaining
      intro p hdemotes _
      obtain ⟨m, hm, hother⟩ := List.any_eq_true.1 hremaining
      simp only [Bool.and_eq_true, bne_iff_ne] at hother
      simp only [Pc.demotes, Bool.and_eq_true, beq_iff_eq] at hdemotes
      exact ⟨m, hm, hdemotes.2 ▸ hother.1, by simpa [Pc.rowId] using hother.2⟩
    · exact hready _ _
  | validateUnique s wasOwner =>
    simp only [query] at h
    split at h <;> cases h
    · exact hasserts
    · exact hready _ _
  | write s wasOwner =>
    simp only [query] at h
    split at h <;> cases h <;> exact hready _ _

/-- The other actions do not begin a save that ends an ownership. -/
theorem asserts_act (hasserts : Asserts db pc) (h : act db pc c = some (db', pc')) :
    Asserts db' pc' := by
  cases c with
  | next => exact asserts_query hasserts h
  | save | deleteMembership =>
    simp only [act] at h
    split at h <;> cases h
    exact fun p hdemotes => by cases hdemotes
  | deleteUser user =>
    simp only [act] at h
    split at h
    · split at h <;> cases h <;> exact fun p hdemotes => by cases hdemotes
    · cases h
  | deleteProject project =>
    simp only [act] at h
    split at h <;> cases h
    exact fun p hdemotes => by cases hdemotes

theorem takes_of_writes (h : act db pc c = some (db', pc')) (hwrites : pc.writes p = true)
    (hid : some m.id ≠ pc.rowId) : Takes db pc m c = false := by
  cases pc with
  | write s wasOwner =>
    have hne : m.id ≠ s.row.id := fun heq => hid (congrArg some heq)
    cases c with
    | next => simp [Takes, hne]
    | save o args => rfl
    | deleteMembership id => cases h
    | deleteUser user => cases h
    | deleteProject project => rfl
  | ready error => cases hwrites
  | cleanFields o args => cases hwrites
  | readOld s => cases hwrites
  | countOwners s => cases hwrites
  | validateUnique s wasOwner => cases hwrites

variable {W : Type} {a : State W} {w : W}

theorem asserts_other (hok : Careful a (w, c)) (heffect : Effect a.store (a.pc w) c db') {v : W}
    (hv : v ≠ w) (hasserts : Asserts a.store (a.pc v)) : Asserts db' (a.pc v) := by
  intro p hdemotes hp
  obtain ⟨m, hm, howns, hid⟩ := hasserts p hdemotes (heffect.hasProject hp)
  obtain ⟨rfl, howner⟩ := owns_iff.1 howns
  cases htakes : Takes a.store (a.pc w) m c with
  | true =>
    have halone := hok.alone m hm howner htakes v hv
    rw [hdemotes] at halone
    cases halone
  | false =>
    obtain ⟨m', hm', hid', howns'⟩ := heffect.survives hm howns htakes hp
    exact ⟨m', hm', howns', hid' ▸ hid⟩

theorem owned_act (hok : Careful a (w, c)) (hasserts : Asserts a.store (a.pc w))
    (h : act a.store (a.pc w) c = some (db', pc')) (howned : a.store.owned p = true)
    (hp : db'.hasProject p = true) : db'.owned p = true := by
  have heffect := effect_of_act h
  -- it is enough that one active ownership is not taken
  suffices hspared : ∃ m ∈ a.store.memberships, m.owns p = true ∧
      Takes a.store (a.pc w) m c = false by
    obtain ⟨m, hm, howns, htakes⟩ := hspared
    obtain ⟨m', hm', -, howns'⟩ := heffect.survives hm howns htakes hp
    exact List.any_eq_true.2 ⟨m', hm', howns'⟩
  obtain ⟨m, hm, howns⟩ := List.any_eq_true.1 howned
  obtain ⟨rfl, howner⟩ := owns_iff.1 howns
  cases htakes : Takes a.store (a.pc w) m c with
  | false => exact ⟨m, hm, howns, htakes⟩
  | true =>
    -- a save that ends the ownership has found another owner
    cases hwrites : (a.pc w).writes m.project with
    | false => exact hok.spares m hm howner htakes hwrites
    | true =>
      have hdemotes := hok.fresh m hm howner htakes hwrites
      obtain ⟨m', hm', howns', hid⟩ := hasserts m.project hdemotes (heffect.hasProject hp)
      exact ⟨m', hm', howns', takes_of_writes h hwrites hid⟩

end Invariant

/-- **A project that has an active owner keeps one** as long as it exists, in every run whose steps
are careful where they end an ownership. -/
theorem project_keeps_owner {W : Type} [DecidableEq W] {s₀ s t : State W} {p : ℕ}
    (hready : ∀ w, s₀.pc w = .ready none) (before : Reach step Careful s₀ s)
    (howned : s.store.owned p = true) (run : Reach step Careful s t)
    (hexists : t.store.hasProject p = true) : t.store.owned p = true := by
  -- what the saves in flight have checked holds when the project gets its owner
  have hstart : ∀ w, Asserts s.store (s.pc w) := by
    refine (Clients.relyGuarantee (fun _ => True) (fun _ => Asserts) before trivial
      (fun w => ?_) fun _ hasserts hok h => ?_).2
    · rw [hready w]
      exact fun p hdemotes => by cases hdemotes
    · exact ⟨trivial, asserts_act (hasserts _) h,
        fun v hv => asserts_other hok (effect_of_act h) hv (hasserts v)⟩
  refine (Clients.relyGuarantee (fun db => db.hasProject p = true → db.owned p = true)
    (fun _ => Asserts) run (fun _ => howned) hstart fun hinv hasserts hok h => ?_).1 hexists
  have heffect := effect_of_act h
  exact ⟨fun hp => owned_act hok (hasserts _) h (hinv (heffect.hasProject hp)) hp,
    asserts_act (hasserts _) h, fun v hv => asserts_other hok heffect hv (hasserts v)⟩

/-! ### Samples -/

/-- Two projects of user 10, who is not a member of them. -/
def sampleState (memberships : List Membership) : State Bool where
  store := ⟨[⟨1, 10⟩, ⟨2, 10⟩], [10, 11, 12], memberships⟩
  pc _ := .ready none

/-- The membership of user 11 and that of user 12 in the first project. -/
def first (role : ProjectRole) : Membership := ⟨100, 1, 11, role, true⟩

def second (role : ProjectRole) : Membership := ⟨101, 1, 12, role, true⟩

/-- A client saves a membership that it has loaded, and takes so many steps. -/
def saves (client : Bool) (row : Membership) (steps : ℕ) : List (Bool × Choice) :=
  (client, .save ⟨row.id, false, row.project, row.user, row.role, row.isActive⟩ {}) ::
    List.replicate steps (client, .next)

/-- One of two owners becomes a viewer. -/
theorem project_keeps_owner_demotion :
    ∃ t, Reach step Careful (sampleState [first .owner, second .owner]) t ∧
      first .viewer ∈ t.store.memberships ∧ t.store.owned 1 = true := by
  have hrun : (runLabels step Careful (sampleState [first .owner, second .owner])
      (saves false (first .viewer) 5)).any (fun t => decide (first .viewer ∈ t.store.memberships) &&
        t.store.hasProject 1) = true := by decide +kernel
  obtain ⟨t, ht, hmem⟩ := (Option.any_eq_true _ _).1 hrun
  simp only [Bool.and_eq_true, decide_eq_true_eq] at hmem
  have hreach := reach_of_runLabels ht
  exact ⟨t, hreach, hmem.1, project_keeps_owner (fun _ => rfl) .refl (by decide) hreach hmem.2⟩

/-- The last owner's membership is deleted, their user is deleted, the membership moves to another
project; two owners become viewers at the same time; a save that has read the row of a viewer ends
the ownership that this one has been given in the meantime. -/
def ownerlessRuns : List (List Membership × List (Bool × Choice)) :=
  [([first .owner], [(false, .deleteMembership 100)]),
    ([first .owner], [(false, .deleteUser 11)]),
    ([first .owner], saves false { first .owner with project := 2 } 4),
    ([first .owner, second .owner],
      saves false (first .viewer) 3 ++ saves true (second .viewer) 3 ++
        [(false, .next), (false, .next), (true, .next), (true, .next)]),
    ([first .owner, second .viewer],
      saves true (second .technician) 2 ++ saves false (second .owner) 4 ++
        saves false (first .viewer) 5 ++ [(true, .next), (true, .next)])]

/-- Each of these runs leaves a project without an active owner. -/
theorem project_loses_owner :
    ownerlessRuns.Forall fun r => (sampleState r.1).store.owned 1 = true ∧
      ∃ t, Reach step Free (sampleState r.1) t ∧ t.store.hasProject 1 = true ∧
        t.store.owned 1 = false := by
  have hruns : ∀ r ∈ ownerlessRuns, (sampleState r.1).store.owned 1 = true ∧
      (runLabels step Free (sampleState r.1) r.2).any (fun t =>
        t.store.hasProject 1 && !t.store.owned 1) = true := by decide +kernel
  refine List.forall_iff_forall_mem.2 fun r hr => ?_
  obtain ⟨howned, hrun⟩ := hruns r hr
  obtain ⟨t, ht, hlost⟩ := (Option.any_eq_true _ _).1 hrun
  simp only [Bool.and_eq_true, Bool.not_eq_true'] at hlost
  exact ⟨howned, t, reach_of_runLabels ht, hlost⟩

end ArchiDeal.Research
