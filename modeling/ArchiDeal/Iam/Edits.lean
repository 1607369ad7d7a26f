import ArchiDeal.Iam.Binding

/-!
# Edits of an account

`UserViewSet` of `apps/iam/views.py`: updates, password changes and deletions of one local user. An
update loads the row, validates the body and saves all columns; a password change saves its column
only.

`account_edits_kept`: what the committed edits say is what is stored, in every run in which an
update saves a row that still exists and whose other columns are as they were loaded. Without the
condition an update brings back what another request has changed (`stale_update_undoes_edits`): an
account that has been deactivated is active again, an old password is valid again, and a user that
has been deleted is inserted again.
-/

namespace ArchiDeal.Iam

open Transition

/-! ### Committed edits -/

/-- The fields that an update may name. -/
inductive Field
  | username
  | email
  | firstName
  | lastName
  | isActive
  | isStaff
  | isSuperuser
  deriving DecidableEq

/-- The type of a field. -/
abbrev Field.Value : Field → Type
  | .username | .email | .firstName | .lastName => String
  | .isActive | .isStaff | .isSuperuser => Bool

/-- The value that a body gives to a field. -/
def Field.given : (f : Field) → UserValues → Option f.Value
  | .username => UserValues.username
  | .email => UserValues.email
  | .firstName => UserValues.firstName
  | .lastName => UserValues.lastName
  | .isActive => UserValues.isActive
  | .isStaff => UserValues.isStaff
  | .isSuperuser => UserValues.isSuperuser

/-- The column of a field. -/
def Field.get : (f : Field) → UserRow → f.Value
  | .username => UserRow.username
  | .email => UserRow.email
  | .firstName => UserRow.firstName
  | .lastName => UserRow.lastName
  | .isActive => UserRow.isActive
  | .isStaff => UserRow.isStaff
  | .isSuperuser => UserRow.isSuperuser

theorem Field.get_onto (f : Field) (values : UserValues) (row : UserRow) :
    f.get (values.onto row) = (f.given values).getD (f.get row) := by
  cases f <;> rfl

theorem Field.get_password (f : Field) (row : UserRow) (password : Option String) :
    f.get { row with password := password } = f.get row := by
  cases f <;> rfl

/-- A committed edit of an account. -/
inductive Commit where
  | update (values : UserValues)
  | setPassword (password : String)
  | destroy

/-- The password that an edit sets. -/
def Commit.password : Commit → Option (Option String)
  | .setPassword password => some (some password)
  | _ => none

/-- The value that an edit gives to a field. -/
def Commit.field (f : Field) : Commit → Option f.Value
  | .update values => f.given values
  | _ => none

/-- The value of the last edit that gives one. -/
def lastGiven {α : Type} (given : Commit → Option α) (initial : α) (history : List Commit) : α :=
  (history.reverse.findSome? given).getD initial

theorem lastGiven_concat {α : Type} (given : Commit → Option α) (initial : α)
    (history : List Commit)
    (c : Commit) :
    lastGiven given initial (history ++ [c]) =
      (given c).getD (lastGiven given initial history) := by
  rw [lastGiven, List.reverse_append, List.reverse_singleton, List.singleton_append,
    List.findSome?_cons]
  cases given c <;> rfl

/-- What is stored of an account is what its committed edits say. -/
structure AsEdited (user : ℕ) (row₀ : UserRow) (history : List Commit) (db : Store) : Prop where
  destroyed : .destroy ∈ history → db.users.lookup user = none
  stored : .destroy ∉ history → ∃ row, db.users.lookup user = some row ∧
    row.password = lastGiven Commit.password row₀.password history ∧
    ∀ f : Field, f.get row = lastGiven (Commit.field f) (f.get row₀) history

/-- The request is answered with the status. -/
def Thread.answered (status : ℕ) : Thread → Bool
  | .done (.response status') => status' == status
  | _ => false

/-- What a statement commits of the account, if the request is answered with a success. -/
def commitOf (user : ℕ) (thread next : Thread) : List Commit :=
  match thread with
  | .updateSave u _ values _ => if u = user ∧ next.answered 200 then [.update values] else []
  | .passwordSave u _ password =>
    if u = user ∧ next.answered 204 then [.setPassword password] else []
  | .destroyDelete u => if u = user ∧ next.answered 204 then [.destroy] else []
  | _ => []

/-- What a step commits of the account. -/
def commits (rules : Rules) (user : ℕ) (s : System) : Action → List Commit
  | .call _ _ => []
  | .run id choice =>
    match s.threads.lookup id with
    | none => []
    | some thread => (advance rules s.db choice thread).elim [] fun r => commitOf user thread r.2

/-- An update of the account finds the row, and the columns that it does not name as it has loaded
them. -/
def Thread.currentFor (user : ℕ) (db : Store) : Thread → Bool
  | .updateSave u row values _ =>
    u != user || (db.users.lookup u).any fun stored => values.onto stored == values.onto row
  | _ => true

/-- No step saves an outdated row of the account. -/
def Current (user : ℕ) (s : System × List Commit) : Action → Prop
  | .call _ _ => True
  | .run id _ => (s.1.threads.lookup id).all (·.currentFor user s.1.db) = true

instance (user : ℕ) (s : System × List Commit) : (action : Action) →
    Decidable (Current user s action)
  | .call _ _ => inferInstanceAs (Decidable True)
  | .run _ _ => inferInstanceAs (Decidable (_ = true))

/-! ### What a statement does to the account -/

section Statements

variable {rules : Rules} {db db' : Store} {choice : Choice} {thread next : Thread} {user : ℕ}

/-- What a statement does to the row of a user. -/
inductive RowEffect (user : ℕ) (db db' : Store) (thread next : Thread) : Prop
  | kept (hcommit : commitOf user thread next = [])
      (hrow : db'.users.lookup user = db.users.lookup user)
  | updated (row : UserRow) (values : UserValues) (isOidc : Bool)
      (hthread : thread = .updateSave user row values isOidc)
      (hcommit : commitOf user thread next = [.update values])
      (hrow : db'.users.lookup user = some (values.onto row))
  | password (row : UserRow) (password : String)
      (hcommit : commitOf user thread next = [.setPassword password])
      (hstored : db.users.lookup user = some row)
      (hrow : db'.users.lookup user = some { row with password := some password })
  | destroyed (hcommit : commitOf user thread next = [.destroy])
      (hrow : db'.users.lookup user = none)

/-- The user is a local one. -/
structure Local (user : ℕ) (db : Store) : Prop where
  key : user < db.nextUser
  unbound : db.isOidcAclUser user = false

theorem isOidcAclUser_eq_false : db.isOidcAclUser user = false ↔
    ∀ id identity, db.identities.lookup id = some identity → identity.user ≠ user := by
  simp only [Store.isOidcAclUser, Table.any_eq_false, beq_eq_false_iff_ne]

theorem Local.unchanged (h : Local user db) (hcommit : commitOf user thread next = []) :
    Local user db ∧ RowEffect user db db thread next :=
  ⟨h, .kept hcommit rfl⟩

theorem Local.provisionFound (h : Local user db) {request : Provision} {id : ℕ}
    {identity : OidcAclIdentity} (hid : db.identities.lookup id = some identity)
    (hcommit : ∀ next, commitOf user thread next = []) :
    Local user (provisionFound db request id identity).1 ∧
      RowEffect user db (provisionFound db request id identity).1 thread
        (provisionFound db request id identity).2 := by
  unfold Iam.provisionFound
  split
  · exact h.unchanged (hcommit _)
  split
  · exact h.unchanged (hcommit _)
  refine ⟨⟨h.key, isOidcAclUser_eq_false.2 fun i identity' hlookup => ?_⟩, .kept (hcommit _) rfl⟩
  rw [Table.lookup_insert_eq] at hlookup
  have hunbound := isOidcAclUser_eq_false.1 h.unbound
  split_ifs at hlookup
  · cases hlookup
    exact hunbound id identity hid
  · exact hunbound i identity' hlookup

theorem Local.provisionInsert (h : Local user db) (request : Provision)
    (hcommit : ∀ next, commitOf user thread next = []) :
    Local user (provisionInsert db request).1 ∧
      RowEffect user db (provisionInsert db request).1 thread (provisionInsert db request).2 := by
  unfold Iam.provisionInsert
  simp only
  split
  · exact h.unchanged (hcommit _)
  have hne : user ≠ db.nextUser := h.key.ne
  refine ⟨⟨Nat.lt_succ_of_lt h.key, isOidcAclUser_eq_false.2 fun i identity' hlookup => ?_⟩,
    .kept (hcommit _) ?_⟩
  · rw [Table.lookup_insert_eq] at hlookup
    split_ifs at hlookup
    · cases hlookup
      exact hne.symm
    · exact isOidcAclUser_eq_false.1 h.unbound i identity' hlookup
  · exact AList.lookup_insert_ne hne

theorem Local.deprovision (h : Local user db) (blockers : List String) (id : ℕ)
    (hcommit : ∀ next, commitOf user thread next = []) :
    Local user (deprovision db blockers id).1 ∧
      RowEffect user db (deprovision db blockers id).1 thread (deprovision db blockers id).2 := by
  unfold Iam.deprovision
  split
  · exact h.unchanged (hcommit _)
  rename_i identity hidentity
  split
  · exact h.unchanged (hcommit _)
  split
  · exact h.unchanged (hcommit _)
  split
  · have hunbound := isOidcAclUser_eq_false.1 h.unbound
    refine ⟨⟨h.key, isOidcAclUser_eq_false.2 fun i identity' hlookup =>
      hunbound i identity' (Table.lookup_erase_eq_some.1 hlookup).2⟩, .kept (hcommit _) ?_⟩
    exact AList.lookup_erase_ne (hunbound id identity hidentity).symm
  · exact h.unchanged (hcommit _)

theorem Local.createUser (h : Local user db) (values : UserValues) (password : String)
    (hcommit : ∀ next, commitOf user thread next = []) :
    Local user (createUser rules db choice values password).1 ∧
      RowEffect user db (createUser rules db choice values password).1 thread
        (createUser rules db choice values password).2 := by
  unfold Iam.createUser
  split
  · exact h.unchanged (hcommit _)
  split
  · simp only
    split
    · exact h.unchanged (hcommit _)
    · exact ⟨⟨Nat.lt_succ_of_lt h.key, h.unbound⟩,
        .kept (hcommit _) (AList.lookup_insert_ne h.key.ne)⟩
  · exact h.unchanged (hcommit _)

/-- An update saves the row that it has loaded, with the values of its body. -/
theorem Local.saveUser (h : Local user db) (u : ℕ) (row : UserRow) (values : UserValues)
    (isOidc : Bool) :
    Local user (saveUser db u (values.onto row)).1 ∧
      RowEffect user db (saveUser db u (values.onto row)).1 (.updateSave u row values isOidc)
        (saveUser db u (values.onto row)).2 := by
  unfold Iam.saveUser
  split
  · exact h.unchanged (if_neg (by simp [Thread.answered]))
  refine ⟨⟨h.key, h.unbound⟩, ?_⟩
  by_cases hu : u = user
  · subst hu
    exact .updated row values isOidc rfl (if_pos ⟨rfl, rfl⟩) (AList.lookup_insert _)
  · exact .kept (if_neg fun hboth => hu hboth.1) (AList.lookup_insert_ne (Ne.symm hu))

theorem Local.savePassword (h : Local user db) (u : ℕ) (row : UserRow) (password : String) :
    Local user (savePassword db u password).1 ∧
      RowEffect user db (savePassword db u password).1 (.passwordSave u row password)
        (savePassword db u password).2 := by
  unfold Iam.savePassword
  split
  · exact h.unchanged (if_neg (by simp [Thread.answered]))
  rename_i stored hstored
  refine ⟨⟨h.key, h.unbound⟩, ?_⟩
  by_cases hu : u = user
  · subst hu
    exact .password stored password (if_pos ⟨rfl, rfl⟩) hstored (AList.lookup_insert _)
  · exact .kept (if_neg fun hboth => hu hboth.1) (AList.lookup_insert_ne (Ne.symm hu))

theorem Local.deleteUser (h : Local user db) (u : ℕ) :
    Local user (deleteUser db u).1 ∧
      RowEffect user db (deleteUser db u).1 (.destroyDelete u) (deleteUser db u).2 := by
  unfold Iam.deleteUser
  split
  · exact h.unchanged (if_neg (by simp [Thread.answered]))
  refine ⟨⟨h.key, h.unbound⟩, ?_⟩
  by_cases hu : u = user
  · subst hu
    exact .destroyed (if_pos ⟨rfl, rfl⟩) (AList.lookup_erase _ _)
  · exact .kept (if_neg fun hboth => hu hboth.1) (AList.lookup_erase_ne (Ne.symm hu))

theorem of_advance {r : Store × Thread} (hr : some r = some (db', next))
    (h : Local user r.1 ∧ RowEffect user db r.1 thread r.2) :
    Local user db' ∧ RowEffect user db db' thread next := by
  obtain rfl := Option.some.inj hr
  exact h

/-- **What a statement does to the row of a local user.** -/
theorem Local.advance (h : Local user db) (hadvance : advance rules db choice thread =
    some (db', next)) : Local user db' ∧ RowEffect user db db' thread next := by
  -- only the statements that write concern the row
  cases thread with
  | provisionLookup request =>
    simp only [Iam.advance] at hadvance
    split at hadvance
    · split at hadvance
      · rename_i id identity hfind
        exact of_advance hadvance (h.provisionFound (Table.lookup_of_find hfind).1 fun _ => rfl)
      · cases hadvance
        exact h.unchanged rfl
    · cases hadvance
      exact h.unchanged rfl
  | provisionInsert request =>
    exact of_advance hadvance (h.provisionInsert request fun _ => rfl)
  | provisionRetry request =>
    simp only [Iam.advance] at hadvance
    split at hadvance
    · rename_i id identity hfind
      exact of_advance hadvance (h.provisionFound (Table.lookup_of_find hfind).1 fun _ => rfl)
    · split at hadvance <;> cases hadvance <;> exact h.unchanged rfl
  | deprovision id =>
    exact of_advance hadvance (h.deprovision choice.blockers id fun _ => rfl)
  | createUser values password =>
    exact of_advance hadvance (h.createUser values password fun _ => rfl)
  | updateCheck u row values =>
    cases hadvance
    exact h.unchanged rfl
  | updateSave u row values isOidc =>
    exact of_advance hadvance (h.saveUser u row values isOidc)
  | destroyDelete u =>
    exact of_advance hadvance (h.deleteUser u)
  | provisionUsername _ | updateLookup _ _ | destroyLookup _ | destroyCheck _ | destroyLookupAgain _
  | passwordLookup _ _ =>
    simp only [Iam.advance] at hadvance
    split at hadvance <;> cases hadvance <;> exact h.unchanged rfl
  | passwordCheck u row password =>
    simp only [Iam.advance] at hadvance
    split at hadvance
    · cases hadvance
      exact h.unchanged rfl
    · split at hadvance <;> cases hadvance <;> exact h.unchanged rfl
  | passwordSave u row password =>
    exact of_advance hadvance (h.savePassword u row password)
  | done answer => cases hadvance

end Statements

/-! ### The invariant -/

section Invariant

variable {user : ℕ} {row₀ : UserRow} {history : List Commit} {db db' : Store} {thread next : Thread}

theorem AsEdited.concat {c : Commit} {row row' : UserRow} (h : AsEdited user row₀ history db)
    (hrow : db.users.lookup user = some row) (hrow' : db'.users.lookup user = some row')
    (hc : c ≠ .destroy) (hpassword : row'.password = c.password.getD row.password)
    (hfields : ∀ f : Field, f.get row' = (c.field f).getD (f.get row)) :
    AsEdited user row₀ (history ++ [c]) db' := by
  have hkept : .destroy ∉ history := fun hmem => by
    rw [h.destroyed hmem] at hrow
    cases hrow
  obtain ⟨stored, hstored, hold, hfields'⟩ := h.stored hkept
  rw [hrow] at hstored
  cases hstored
  have hnot : .destroy ∉ history ++ [c] := by
    rw [List.mem_append, List.mem_singleton, not_or]
    exact ⟨hkept, hc.symm⟩
  refine ⟨fun hmem => absurd hmem hnot, fun _ => ⟨row', hrow', ?_, fun f => ?_⟩⟩
  · rw [hpassword, hold, lastGiven_concat]
  · rw [hfields, hfields', lastGiven_concat]

theorem AsEdited.effect (h : AsEdited user row₀ history db)
    (heffect : RowEffect user db db' thread next)
    (hcurrent : thread.currentFor user db = true) :
    AsEdited user row₀ (history ++ commitOf user thread next) db' := by
  cases heffect with
  | kept hcommit hrow =>
    rw [hcommit, List.append_nil]
    exact ⟨fun hmem => hrow.trans (h.destroyed hmem), fun hnot => hrow ▸ h.stored hnot⟩
  | updated row values isOidc hthread hcommit hrow =>
    subst hthread
    simp only [Thread.currentFor, bne_self_eq_false, Bool.false_or] at hcurrent
    obtain ⟨stored, hstored, hsame⟩ := (Option.any_eq_true _ _).1 hcurrent
    rw [← beq_iff_eq.1 hsame] at hrow
    rw [hcommit]
    exact h.concat hstored hrow nofun rfl fun f => f.get_onto values stored
  | password row password hcommit hstored hrow =>
    rw [hcommit]
    exact h.concat hstored hrow nofun rfl fun f => f.get_password row _
  | destroyed hcommit hrow =>
    rw [hcommit]
    exact ⟨fun _ => hrow, fun hnot => absurd (List.mem_append_right _ (.head _)) hnot⟩

end Invariant

/-- **An edit does not undo another one**: what is stored of a local user is what the committed
edits say, in every run in which no update saves an outdated row. -/
theorem account_edits_kept (rules : Rules) {s t : System} {user : ℕ} {row₀ : UserRow}
    {history : List Commit} (hc : Constrained s.db) (hrow : s.db.users.lookup user = some row₀)
    (hlocal : s.db.isOidcAclUser user = false)
    (run : Reach (recorded (System.step rules) (commits rules user)) (Current user) (s, [])
      (t, history)) :
    AsEdited user row₀ history t.db := by
  refine (run.invariant (fun r => Local user r.1.db ∧ AsEdited user row₀ r.2 r.1.db) ?_ ?_).2
  · exact ⟨⟨hc.user_lt hrow, hlocal⟩, nofun, fun _ => ⟨row₀, hrow, rfl, fun _ => rfl⟩⟩
  · rintro ⟨a, before⟩ action ⟨b, after⟩ - ⟨hlocal, hedited⟩ hok next
    obtain ⟨hstep, rfl⟩ := recorded_eq_some next
    cases action with
    | call id request =>
      simp only [System.step] at hstep
      split_ifs at hstep
      cases hstep
      exact ⟨hlocal, by simpa [commits] using hedited⟩
    | run id choice =>
      simp only [System.step] at hstep
      obtain ⟨thread, hthread, hstep'⟩ := Option.bind_eq_some_iff.1 hstep
      obtain ⟨⟨db', thread'⟩, hadvance, hb⟩ := Option.bind_eq_some_iff.1 hstep'
      cases hb
      have hcurrent : thread.currentFor user a.db = true := by simpa [Current, hthread] using hok
      obtain ⟨hlocal', heffect⟩ := hlocal.advance hadvance
      have hcommits : commits rules user a (.run id choice) = commitOf user thread thread' := by
        simp [commits, hthread, hadvance]
      exact ⟨hlocal', hcommits ▸ hedited.effect heffect hcurrent⟩

/-! ### Samples -/

/-- A local user. -/
def adaRow : UserRow := ⟨"ada", "", "Ada", "Lovelace", true, false, false, some "first password"⟩

def localSystem : System := ⟨⟨AList.singleton 1 adaRow, ∅, 2, 1⟩, ∅⟩

theorem constrained_localSystem : Constrained localSystem.db := by
  have hone {id : ℕ} {row : UserRow} (h : localSystem.db.users.lookup id = some row) : id = 1 := by
    have hmem : (⟨id, row⟩ : Sigma fun _ : ℕ => UserRow) ∈ localSystem.db.users.entries :=
      AList.mem_lookup_iff.1 h
    cases List.mem_singleton.1 hmem
    rfl
  refine ⟨fun h => ?_, nofun, fun h h' _ => (hone h).trans (hone h').symm, nofun⟩
  rw [hone h]
  decide

/-- A body that deactivates the account. -/
def inactiveBody : UserValues := ⟨none, none, none, none, some false, none, none⟩

/-- A request takes so many statements. -/
def runs (id : ℕ) (request : Request) (statements : ℕ) : List Action :=
  .call id request :: List.replicate statements (.run id {})

/-- The account is deactivated, and then the email is changed. -/
theorem account_edits_kept_deactivation :
    ∃ t history, Reach (recorded (System.step sampleRules) (commits sampleRules 1)) (Current 1)
      (localSystem, []) (t, history) ∧ history.length = 2 ∧ AsEdited 1 adaRow history t.db := by
  have hrun : ((runLabels (recorded (System.step sampleRules) (commits sampleRules 1)) (Current 1)
      (localSystem, []) (runs 0 (.update 1 inactiveBody) 3 ++ runs 1 (.update 1 emailBody) 3)).any
        fun r => r.2.length == 2) = true := by decide +kernel
  obtain ⟨⟨t, history⟩, ht, hlength⟩ := (Option.any_eq_true _ _).1 hrun
  have hreach := reach_of_runLabels ht
  exact ⟨t, history, hreach, by simpa using hlength,
    account_edits_kept sampleRules constrained_localSystem rfl rfl hreach⟩

def Commit.isDestroy : Commit → Bool
  | .destroy => true
  | _ => false

/-- The edits delete the account, change its password or deactivate it. -/
def alters (history : List Commit) : Bool :=
  history.any Commit.isDestroy || lastGiven Commit.password adaRow.password history !=
    adaRow.password ||
    !lastGiven (Commit.field .isActive : Commit → Option Bool) adaRow.isActive history

theorem not_asEdited_of_alters {history : List Commit} {db : Store} {row : UserRow}
    (h : alters history = true) (hrow : db.users.lookup 1 = some row)
    (hpassword : row.password = adaRow.password) (hactive : row.isActive = true) :
    ¬ AsEdited 1 adaRow history db := by
  intro hedited
  by_cases hdestroy : .destroy ∈ history
  · rw [hedited.destroyed hdestroy] at hrow
    cases hrow
  · obtain ⟨stored, hstored, hpassword', hfields⟩ := hedited.stored hdestroy
    rw [hrow] at hstored
    cases hstored
    have hactive' : lastGiven (Commit.field .isActive : Commit → Option Bool) adaRow.isActive
      history = true := (hfields .isActive).symm.trans hactive
    have hnot : history.any Commit.isDestroy = false := by
      rw [List.any_eq_false]
      intro c hc
      cases c with
      | destroy => exact absurd hc hdestroy
      | update values => simp [Commit.isDestroy]
      | setPassword password => simp [Commit.isDestroy]
    rw [alters, hnot, hactive', ← hpassword', hpassword] at h
    simp at h

/-- **An update with an outdated row undoes another edit**: it has loaded the row before the account
is deactivated, gets another password or is deleted, and stores the old row with its email. -/
theorem stale_update_undoes_edits :
    [runs 1 (.update 1 inactiveBody) 3, runs 1 (.setPassword 1 "second password") 3,
      runs 1 (.destroy 1) 4].Forall fun other =>
    ∃ t history, runLabels (recorded (System.step sampleRules) (commits sampleRules 1)) Free
        (localSystem, []) (runs 0 (.update 1 emailBody) 2 ++ other ++ [.run 0 {}]) =
          some (t, history) ∧
      t.db.users.lookup 1 = some { adaRow with email := "ada@example.org" } ∧
      ¬ AsEdited 1 adaRow history t.db := by
  have hruns : ∀ other ∈ [runs 1 (.update 1 inactiveBody) 3,
      runs 1 (.setPassword 1 "second password") 3, runs 1 (.destroy 1) 4],
      ((runLabels (recorded (System.step sampleRules) (commits sampleRules 1)) Free
        (localSystem, [])
        (runs 0 (.update 1 emailBody) 2 ++ other ++ [.run 0 {}])).any fun r =>
          r.1.db.users.lookup 1 == some { adaRow with email := "ada@example.org" } &&
            alters r.2) = true := by
    simp only [List.forall_mem_cons, List.not_mem_nil, false_imp_iff, implies_true, and_true]
    exact ⟨by decide +kernel, by decide +kernel, by decide +kernel⟩
  refine List.forall_iff_forall_mem.2 fun other hother => ?_
  obtain ⟨⟨t, history⟩, ht, hstate⟩ := (Option.any_eq_true _ _).1 (hruns other hother)
  simp only [Bool.and_eq_true, beq_iff_eq] at hstate
  exact ⟨t, history, ht, hstate.1, not_asEdited_of_alters hstate.2 hstate.1 rfl rfl⟩

end ArchiDeal.Iam
