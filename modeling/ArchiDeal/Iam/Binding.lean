import ArchiDeal.Iam.Accounts

/-!
# OIDC accounts stay bound and unprivileged

`Sound` says that the users with a derived `oidc:` username are those that an identity is bound to.
The update of the User API can break it: it loads a row, and its `save` inserts the row again if the
identity and its user have been deprovisioned since. `oidc_accounts_sound` shows that nothing else
can: `Sound` holds in every state of a run in which no update saves the row of an OIDC account that
is gone.

The proof follows the rows that the requests hold. A user never gains, changes or loses a derived
username, so that all rows loaded under one key agree on it (`Agrees`), and an OIDC account that is
gone stays gone (`Keeps`).
-/

namespace ArchiDeal.Iam

open Text Transition
open Catalogue (deriveOidcAclUsername)

/-! ### Derived usernames -/

/-- The form of a derived username: `oidc:` and a SHA-256 digest. -/
def oidcForm (username : String) : Bool :=
  username.toList.take 5 == "oidc:".toList && isHexDigest (String.ofList (username.toList.drop 5))

theorem oidcForm_derive (issuer subject : String) :
    oidcForm (deriveOidcAclUsername issuer subject) = true := by
  have happ : (deriveOidcAclUsername issuer subject).toList = "oidc:".toList ++
      (Sha256.hexdigest (encode (Catalogue.oidcKey issuer subject))).toList := String.toList_append
  have hlen : "oidc:".toList.length = 5 := rfl
  rw [oidcForm, happ, List.take_left' hlen, List.drop_left' hlen, String.ofList_toList,
    Sha256.isHexDigest_hexdigest]
  rfl

theorem colon_mem_of_oidcForm {username : String} (h : oidcForm username = true) :
    ':' ∈ username.toList := by
  simp only [oidcForm, Bool.and_eq_true, beq_iff_eq] at h
  have hmem : ':' ∈ username.toList.take 5 := by rw [h.1]; decide
  exact List.mem_of_mem_take hmem

theorem oidcForm_eq_false {username : String} (h : ':' ∉ username.toList) :
    oidcForm username = false :=
  Bool.eq_false_iff.2 fun hform => h (colon_mem_of_oidcForm hform)

/-! ### The property -/

/-- A user without a usable password and without privileges. -/
def UserRow.Technical (row : UserRow) : Prop :=
  row.password = none ∧ row.isStaff = false ∧ row.isSuperuser = false

/-- The identity is bound to the user. -/
def Store.BoundTo (db : Store) (id user : ℕ) : Prop :=
  ∃ identity, db.identities.lookup id = some identity ∧ identity.user = user

/-- OIDC accounts are bound and unprivileged. -/
structure Sound (db : Store) : Prop where
  bound_iff : ∀ user, (∃ row, db.users.lookup user = some row ∧ oidcForm row.username = true) ↔
    ∃! id, db.BoundTo id user
  derived : ∀ {id identity}, db.identities.lookup id = some identity →
    ∃ row, db.users.lookup identity.user = some row ∧
      row.username = deriveOidcAclUsername identity.issuer identity.subject ∧ row.Technical
  pair_unique : ∀ {id id' identity identity'}, db.identities.lookup id = some identity →
    db.identities.lookup id' = some identity' → identity.issuer = identity'.issuer →
    identity.subject = identity'.subject → id = id'

/-- The unique constraints, and the sequences of the keys. -/
structure Constrained (db : Store) : Prop where
  user_lt : ∀ {id row}, db.users.lookup id = some row → id < db.nextUser
  identity_lt : ∀ {id identity}, db.identities.lookup id = some identity → id < db.nextIdentity
  username_unique : ∀ {id id' row row'}, db.users.lookup id = some row →
    db.users.lookup id' = some row' → row.username = row'.username → id = id'
  user_unique : ∀ {id id' identity identity'}, db.identities.lookup id = some identity →
    db.identities.lookup id' = some identity' → identity.user = identity'.user → id = id'

/-- No update saves the row of an OIDC account that is gone. -/
def Thread.attended (db : Store) : Thread → Bool
  | .updateSave user row _ _ => !oidcForm row.username || (db.users.lookup user).isSome
  | _ => true

/-- The step is not an update that saves the row of an OIDC account that is gone. -/
def Attended (s : System) : Action → Prop
  | .call _ _ => True
  | .run id _ => (s.threads.lookup id).all (·.attended s.db) = true

instance (s : System) : (action : Action) → Decidable (Attended s action)
  | .call _ _ => inferInstanceAs (Decidable True)
  | .run _ _ => inferInstanceAs (Decidable (_ = true))

/-! ### What the rows of a user agree on -/

/-- The derived username of a row. -/
def UserRow.oidcName (row : UserRow) : Option String :=
  if oidcForm row.username then some row.username else none

/-- The row has the derived username that `names` gives to its key, and is then technical. -/
def Agrees (names : ℕ → Option String) (id : ℕ) (row : UserRow) : Prop :=
  names id = row.oidcName ∧ (oidcForm row.username = true → row.Technical)

variable {names names' : ℕ → Option String} {db db' : Store} {id user : ℕ} {row row' : UserRow}

theorem oidcName_of_form (h : oidcForm row.username = true) : row.oidcName = some row.username :=
  if_pos h

theorem oidcName_of_local (h : oidcForm row.username = false) : row.oidcName = none :=
  if_neg (by simp [h])

theorem Agrees.form (h : Agrees names id row) (hn : names id ≠ none) :
    oidcForm row.username = true := by
  by_contra hform
  exact hn (h.1.trans (oidcName_of_local (Bool.eq_false_iff.2 hform)))

theorem Agrees.form_eq_false (h : Agrees names id row) (hn : names id = none) :
    oidcForm row.username = false := by
  refine Bool.eq_false_iff.2 fun hform => ?_
  have := h.1.symm.trans hn
  rw [oidcName_of_form hform] at this
  cases this

theorem agrees_local (hn : names id = none) (h : oidcForm row.username = false) :
    Agrees names id row :=
  ⟨hn.trans (oidcName_of_local h).symm, fun hform => by rw [h] at hform; cases hform⟩

/-! ### The invariant of the store -/

/-- `Sound` and `Constrained`, and the rows agree with `names`. -/
structure Good (names : ℕ → Option String) (db : Store) : Prop where
  known : ∀ {id row}, db.users.lookup id = some row → id < db.nextUser ∧ Agrees names id row
  identity_lt : ∀ {id identity}, db.identities.lookup id = some identity → id < db.nextIdentity
  username_unique : ∀ {id id' row row'}, db.users.lookup id = some row →
    db.users.lookup id' = some row' → row.username = row'.username → id = id'
  bound : ∀ {user row}, db.users.lookup user = some row → oidcForm row.username = true →
    ∃ id, db.BoundTo id user
  owner : ∀ {id identity}, db.identities.lookup id = some identity →
    ∃ row, db.users.lookup identity.user = some row ∧
      row.username = deriveOidcAclUsername identity.issuer identity.subject
  user_unique : ∀ {id id' identity identity'}, db.identities.lookup id = some identity →
    db.identities.lookup id' = some identity' → identity.user = identity'.user → id = id'
  pair_unique : ∀ {id id' identity identity'}, db.identities.lookup id = some identity →
    db.identities.lookup id' = some identity' → identity.issuer = identity'.issuer →
    identity.subject = identity'.subject → id = id'

/-- Keys keep their derived usernames, and an OIDC account that is gone stays gone. -/
structure Keeps (names : ℕ → Option String) (db : Store) (names' : ℕ → Option String)
    (db' : Store) : Prop where
  next_le : db.nextUser ≤ db'.nextUser
  names_eq : ∀ id < db.nextUser, names' id = names id
  gone : ∀ id < db.nextUser, names id ≠ none → db.users.lookup id = none →
    db'.users.lookup id = none

theorem Keeps.refl : Keeps names db names db := ⟨le_rfl, fun _ _ => rfl, fun _ _ _ h => h⟩

theorem isOidcAclUser_iff : db.isOidcAclUser user = true ↔ ∃ id, db.BoundTo id user := by
  simp only [Store.isOidcAclUser, Table.any_eq_true, beq_iff_eq, Store.BoundTo]

theorem Good.names_of_bound (h : Good names db) (hb : db.BoundTo id user) :
    ∃ row, db.users.lookup user = some row ∧ names user ≠ none := by
  obtain ⟨identity, hid, rfl⟩ := hb
  obtain ⟨row, hrow, hname⟩ := h.owner hid
  refine ⟨row, hrow, ?_⟩
  rw [(h.known hrow).2.1, oidcName_of_form (hname ▸ oidcForm_derive _ _)]
  exact Option.some_ne_none _

theorem Good.isOidcAclUser_of_names (h : Good names db) (hn : names user ≠ none)
    (hrow : db.users.lookup user = some row) : db.isOidcAclUser user = true :=
  isOidcAclUser_iff.2 (h.bound hrow ((h.known hrow).2.form hn))

theorem usernameTaken_eq_false {except : Option ℕ} {username : String} :
    db.usernameTaken except username = false ↔ ∀ id row, db.users.lookup id = some row →
      some id ≠ except → row.username ≠ username := by
  simp only [Store.usernameTaken, Table.any_eq_false, Bool.and_eq_false_imp, bne_iff_ne,
    beq_eq_false_iff_ne]

theorem Good.username_unique_insert (h : Good names db)
    (hfree : ∀ id row', db.users.lookup id = some row' → id ≠ user →
      row'.username ≠ row.username) {id id' : ℕ} {r r' : UserRow}
    (hr : (db.users.insert user row).lookup id = some r)
    (hr' : (db.users.insert user row).lookup id' = some r') (hname : r.username = r'.username) :
    id = id' := by
  rw [Table.lookup_insert_eq] at hr hr'
  split_ifs at hr hr' with h₁ h₂ h₂
  · rw [h₁, h₂]
  · cases hr; exact absurd hname.symm (hfree _ _ hr' h₂)
  · cases hr'; exact absurd hname (hfree _ _ hr h₁)
  · exact h.username_unique hr hr' hname

/-- Writing a row that agrees with its key, over an account that exists or for a local one. -/
theorem Good.write (h : Good names db) (hid : user < db.nextUser) (hrow : Agrees names user row)
    (hthere : names user ≠ none → (db.users.lookup user).isSome = true)
    (hfree : ∀ id row', db.users.lookup id = some row' → id ≠ user →
      row'.username ≠ row.username) :
    Good names { db with users := db.users.insert user row } ∧
      Keeps names db names { db with users := db.users.insert user row } := by
  refine ⟨⟨?_, h.identity_lt, h.username_unique_insert hfree, ?_, ?_, h.user_unique,
    h.pair_unique⟩, le_rfl, fun _ _ => rfl, ?_⟩
  · intro id r hr
    simp only [Table.lookup_insert_eq] at hr
    split_ifs at hr with heq
    · cases hr; subst heq; exact ⟨hid, hrow⟩
    · exact h.known hr
  · intro id r hr hform
    simp only [Table.lookup_insert_eq] at hr
    split_ifs at hr with heq
    · -- the account existed, so that it was bound
      cases hr; subst heq
      have hn : names id ≠ none := by
        rw [hrow.1, oidcName_of_form hform]; exact Option.some_ne_none _
      obtain ⟨old, hold⟩ := Option.isSome_iff_exists.1 (hthere hn)
      exact h.bound hold ((h.known hold).2.form hn)
    · exact h.bound hr hform
  · intro k i hi
    obtain ⟨r, hr, hname⟩ := h.owner hi
    simp only [Table.lookup_insert_eq]
    split_ifs with heq
    · -- both rows have the derived username of the key
      have hform : oidcForm r.username = true := hname ▸ oidcForm_derive _ _
      have hold := (h.known hr).2.1
      rw [heq, oidcName_of_form hform] at hold
      have hn : names user ≠ none := hold ▸ Option.some_ne_none _
      have hnew := hrow.1
      rw [oidcName_of_form (hrow.form hn), hold] at hnew
      exact ⟨row, rfl, (Option.some.inj hnew).symm.trans hname⟩
    · exact ⟨r, hr, hname⟩
  · intro id _ hn hnone
    simp only [Table.lookup_insert_eq]
    split_ifs with heq
    · subst heq
      exact absurd (hthere hn) (by simp [hnone])
    · exact hnone

theorem Good.delete (h : Good names db) (hfree : ∀ id, ¬ db.BoundTo id user) :
    Good names { db with users := db.users.erase user } ∧
      Keeps names db names { db with users := db.users.erase user } := by
  refine ⟨⟨fun hr => h.known (Table.lookup_erase_eq_some.1 hr).2, h.identity_lt,
    fun hr hr' => h.username_unique (Table.lookup_erase_eq_some.1 hr).2
      (Table.lookup_erase_eq_some.1 hr').2,
    fun hr => h.bound (Table.lookup_erase_eq_some.1 hr).2, ?_, h.user_unique, h.pair_unique⟩,
    le_rfl, fun _ _ => rfl, fun _ _ _ hnone => Table.lookup_erase_of_none hnone⟩
  intro k i hi
  obtain ⟨r, hr, hname⟩ := h.owner hi
  have hne : i.user ≠ user := fun heq => hfree k ⟨i, hi, heq⟩
  exact ⟨r, Table.lookup_erase_eq_some.2 ⟨hne, hr⟩, hname⟩

theorem Good.refresh {identity : OidcAclIdentity} (refreshed : OidcAclIdentity)
    (h : Good names db) (hid : db.identities.lookup id = some identity)
    (huser : refreshed.user = identity.user) (hissuer : refreshed.issuer = identity.issuer)
    (hsubject : refreshed.subject = identity.subject) :
    Good names { db with identities := db.identities.insert id refreshed } ∧
      Keeps names db names { db with identities := db.identities.insert id refreshed } := by
  -- every identity stands for one before the refresh with the same key, user and pair
  have hback : ∀ {k i}, (db.identities.insert id refreshed).lookup k = some i →
      ∃ j, db.identities.lookup k = some j ∧ i.user = j.user ∧ i.issuer = j.issuer ∧
        i.subject = j.subject := by
    intro k i hi
    rw [Table.lookup_insert_eq] at hi
    split_ifs at hi with heq
    · cases hi; subst heq; exact ⟨identity, hid, huser, hissuer, hsubject⟩
    · exact ⟨i, hi, rfl, rfl, rfl⟩
  refine ⟨⟨h.known, ?_, h.username_unique, ?_, ?_, ?_, ?_⟩, le_rfl, fun _ _ => rfl,
    fun _ _ _ hnone => hnone⟩
  · intro k i hi
    obtain ⟨j, hj, -⟩ := hback hi
    exact h.identity_lt hj
  · intro u r hr hform
    obtain ⟨k, j, hj, hju⟩ := h.bound hr hform
    refine ⟨k, if k = id then refreshed else j, ?_, ?_⟩
    · simp only [Table.lookup_insert_eq]
      split_ifs
      · rfl
      · exact hj
    · split_ifs with heq
      · subst heq
        rw [hid] at hj
        cases hj
        exact huser.trans hju
      · exact hju
  · intro k i hi
    obtain ⟨j, hj, hu, hi', hs⟩ := hback hi
    rw [hu, hi', hs]
    exact h.owner hj
  · intro k k' i i' hi hi' heq
    obtain ⟨j, hj, hu, -⟩ := hback hi
    obtain ⟨j', hj', hu', -⟩ := hback hi'
    exact h.user_unique hj hj' (hu.symm.trans (heq.trans hu'))
  · intro k k' i i' hi hi' heq hseq
    obtain ⟨j, hj, -, hp, hs⟩ := hback hi
    obtain ⟨j', hj', -, hp', hs'⟩ := hback hi'
    exact h.pair_unique hj hj' (hp.symm.trans (heq.trans hp')) (hs.symm.trans (hseq.trans hs'))

theorem Good.deprovision {identity : OidcAclIdentity} (h : Good names db)
    (hid : db.identities.lookup id = some identity) :
    Good names { db with
      identities := db.identities.erase id, users := db.users.erase identity.user } ∧
      Keeps names db names { db with
        identities := db.identities.erase id, users := db.users.erase identity.user } := by
  have hrows : ∀ {u r}, (db.users.erase identity.user).lookup u = some r →
      u ≠ identity.user ∧ db.users.lookup u = some r := Table.lookup_erase_eq_some.1
  have hids : ∀ {k i}, (db.identities.erase id).lookup k = some i →
      k ≠ id ∧ db.identities.lookup k = some i := Table.lookup_erase_eq_some.1
  refine ⟨⟨fun hr => h.known (hrows hr).2, fun hi => h.identity_lt (hids hi).2,
    fun hr hr' => h.username_unique (hrows hr).2 (hrows hr').2, ?_, ?_,
    fun hi hi' => h.user_unique (hids hi).2 (hids hi').2,
    fun hi hi' => h.pair_unique (hids hi).2 (hids hi').2⟩, le_rfl, fun _ _ => rfl,
    fun _ _ _ hnone => Table.lookup_erase_of_none hnone⟩
  · intro u r hr hform
    obtain ⟨hne, hr⟩ := hrows hr
    obtain ⟨k, i, hi, hiu⟩ := h.bound hr hform
    have hk : k ≠ id := by
      rintro rfl
      rw [hid] at hi
      cases hi
      exact hne hiu.symm
    exact ⟨k, i, Table.lookup_erase_eq_some.2 ⟨hk, hi⟩, hiu⟩
  · intro k i hi
    obtain ⟨hk, hi⟩ := hids hi
    obtain ⟨r, hr, hname⟩ := h.owner hi
    have hne : i.user ≠ identity.user := fun heq => hk (h.user_unique hi hid heq)
    exact ⟨r, Table.lookup_erase_eq_some.2 ⟨hne, hr⟩, hname⟩

/-! ### New users -/

theorem Good.known_create (h : Good names db)
    (hrow : oidcForm row.username = true → row.Technical) {r : UserRow}
    (hr : (db.users.insert db.nextUser row).lookup id = some r) :
    id < db.nextUser + 1 ∧ Agrees (Function.update names db.nextUser row.oidcName) id r := by
  rw [Table.lookup_insert_eq] at hr
  split_ifs at hr with heq
  · cases hr
    subst heq
    exact ⟨Nat.lt_succ_self _, Function.update_self _ _ _, hrow⟩
  · obtain ⟨hlt, hagree, htech⟩ := h.known hr
    exact ⟨Nat.lt_succ_of_lt hlt, (Function.update_of_ne heq _ _).trans hagree, htech⟩

theorem keeps_create {name : Option String} (hnext : db'.nextUser = db.nextUser + 1)
    (husers : db'.users = db.users.insert db.nextUser row) :
    Keeps names db (Function.update names db.nextUser name) db' := by
  refine ⟨by omega, fun id hid => Function.update_of_ne hid.ne _ _, fun id hid _ hnone => ?_⟩
  rw [husers, Table.lookup_insert_eq, if_neg hid.ne]
  exact hnone

theorem Good.create (h : Good names db) (hlocal : oidcForm row.username = false)
    (hfree : ∀ id row', db.users.lookup id = some row' → row'.username ≠ row.username) :
    Good (Function.update names db.nextUser row.oidcName)
      { db with users := db.users.insert db.nextUser row, nextUser := db.nextUser + 1 } := by
  refine ⟨h.known_create (fun hform => absurd hform (by simp [hlocal])), h.identity_lt,
    h.username_unique_insert (fun id r hr _ => hfree id r hr), ?_, ?_, h.user_unique,
    h.pair_unique⟩
  · intro u r hr hform
    simp only [Table.lookup_insert_eq] at hr
    split_ifs at hr
    · cases hr; rw [hlocal] at hform; cases hform
    · exact h.bound hr hform
  · intro k i hi
    obtain ⟨r, hr, hname⟩ := h.owner hi
    have hne : i.user ≠ db.nextUser := (h.known hr).1.ne
    exact ⟨r, by simpa [Table.lookup_insert_eq, hne] using hr, hname⟩

theorem Good.provision {issuer subject displayName email : String} (h : Good names db)
    (hfree : ∀ id row, db.users.lookup id = some row →
      row.username ≠ deriveOidcAclUsername issuer subject)
    (hpair : ∀ id identity, db.identities.lookup id = some identity →
      ¬(identity.issuer = issuer ∧ identity.subject = subject)) :
    Good (Function.update names db.nextUser
        (technicalUser (deriveOidcAclUsername issuer subject)).oidcName)
      { users := db.users.insert db.nextUser
          (technicalUser (deriveOidcAclUsername issuer subject))
        identities := db.identities.insert db.nextIdentity
          ⟨db.nextUser, issuer, subject, displayName, email⟩
        nextUser := db.nextUser + 1
        nextIdentity := db.nextIdentity + 1 } := by
  -- the users of the identities so far are older than the new one
  have holder : ∀ {k i}, db.identities.lookup k = some i → i.user < db.nextUser := by
    intro k i hi
    obtain ⟨r, hr, -⟩ := h.owner hi
    exact (h.known hr).1
  refine ⟨h.known_create (fun _ => ⟨rfl, rfl, rfl⟩), ?_,
    h.username_unique_insert (fun id r hr _ => hfree id r hr), ?_, ?_, ?_, ?_⟩
  · intro k i hi
    simp only [Table.lookup_insert_eq] at hi
    split_ifs at hi with heq
    · exact heq ▸ Nat.lt_succ_self _
    · exact Nat.lt_succ_of_lt (h.identity_lt hi)
  · intro u r hr hform
    simp only [Table.lookup_insert_eq] at hr
    split_ifs at hr with heq
    · exact ⟨db.nextIdentity, _, AList.lookup_insert _, heq.symm⟩
    · obtain ⟨k, i, hi, hiu⟩ := h.bound hr hform
      have hk : k ≠ db.nextIdentity := (h.identity_lt hi).ne
      exact ⟨k, i, by simpa [Table.lookup_insert_eq, hk] using hi, hiu⟩
  · intro k i hi
    simp only [Table.lookup_insert_eq] at hi
    split_ifs at hi with heq
    · cases hi
      exact ⟨_, AList.lookup_insert _, rfl⟩
    · obtain ⟨r, hr, hname⟩ := h.owner hi
      exact ⟨r, by simpa [Table.lookup_insert_eq, (holder hi).ne] using hr, hname⟩
  · intro k k' i i' hi hi' hu
    simp only [Table.lookup_insert_eq] at hi hi'
    split_ifs at hi hi' with h₁ h₂ h₂
    · rw [h₁, h₂]
    · cases hi; exact absurd hu.symm (holder hi').ne
    · cases hi'; exact absurd hu (holder hi).ne
    · exact h.user_unique hi hi' hu
  · intro k k' i i' hi hi' hissuer hsubject
    simp only [Table.lookup_insert_eq] at hi hi'
    split_ifs at hi hi' with h₁ h₂ h₂
    · rw [h₁, h₂]
    · cases hi; exact absurd ⟨hissuer.symm, hsubject.symm⟩ (hpair _ _ hi')
    · cases hi'; exact absurd ⟨hissuer, hsubject⟩ (hpair _ _ hi)
    · exact h.pair_unique hi hi' hissuer hsubject

/-! ### The invariant of the requests -/

/-- The row was loaded under the key. -/
def Loaded (names : ℕ → Option String) (db : Store) (user : ℕ) (row : UserRow) : Prop :=
  user < db.nextUser ∧ Agrees names user row

/-- A request that has found no identity of the user: an OIDC account is gone. -/
def Unbound (names : ℕ → Option String) (db : Store) (user : ℕ) : Prop :=
  user < db.nextUser ∧ (names user ≠ none → db.users.lookup user = none)

/-- What a request has found. -/
def Thread.Fits (rules : Rules) (names : ℕ → Option String) (db : Store) : Thread → Prop
  | .updateCheck user row _ => Loaded names db user row
  | .updateSave user row values true =>
    Loaded names db user row ∧ values.protectedFields row = []
  | .updateSave user row values false => Loaded names db user row ∧ Unbound names db user ∧
      values.username.all rules.validUsername = true
  | .passwordCheck user row _ => Loaded names db user row
  | .passwordSave user row _ => Loaded names db user row ∧ Unbound names db user
  | _ => True

theorem Loaded.mono (hk : Keeps names db names' db') (h : Loaded names db user row) :
    Loaded names' db' user row :=
  ⟨h.1.trans_le hk.next_le, (hk.names_eq _ h.1).trans h.2.1, h.2.2⟩

theorem Unbound.mono (hk : Keeps names db names' db') (h : Unbound names db user) :
    Unbound names' db' user := by
  refine ⟨h.1.trans_le hk.next_le, fun hn => ?_⟩
  rw [hk.names_eq _ h.1] at hn
  exact hk.gone _ h.1 hn (h.2 hn)

theorem Thread.Fits.mono {rules : Rules} {thread : Thread} (hk : Keeps names db names' db')
    (h : thread.Fits rules names db) : thread.Fits rules names' db' := by
  cases thread with
  | updateCheck => exact Loaded.mono hk h
  | updateSave user row values isOidc =>
    cases isOidc
    · exact ⟨h.1.mono hk, h.2.1.mono hk, h.2.2⟩
    · exact ⟨h.1.mono hk, h.2⟩
  | passwordCheck => exact Loaded.mono hk h
  | passwordSave => exact ⟨h.1.mono hk, h.2.mono hk⟩
  | _ => trivial

/-- A check that finds no identity shows that an OIDC account is gone. -/
theorem Good.unbound (h : Good names db) (hload : Loaded names db user row)
    (hfree : db.isOidcAclUser user = false) : Unbound names db user := by
  refine ⟨hload.1, fun hn => Option.eq_none_iff_forall_ne_some.2 fun r hr => ?_⟩
  rw [h.isOidcAclUser_of_names hn hr] at hfree
  cases hfree

/-- What a step does to the invariant: it holds again, for names that extend the old ones. -/
def Stays (rules : Rules) (names : ℕ → Option String) (db : Store) (next : Store × Thread) : Prop :=
  ∃ names', Good names' next.1 ∧ Keeps names db names' next.1 ∧ next.2.Fits rules names' next.1

variable {rules : Rules}

theorem Good.stays (h : Good names db) {next : Thread} (hfits : next.Fits rules names db) :
    Stays rules names db (db, next) :=
  ⟨names, h, Keeps.refl, hfits⟩

theorem Good.stays_found (h : Good names db) {request : Provision} {identity : OidcAclIdentity}
    (hid : db.identities.lookup id = some identity) :
    Stays rules names db (provisionFound db request id identity) := by
  unfold provisionFound
  split
  · exact h.stays trivial
  · split
    · exact h.stays trivial
    · obtain ⟨hgood, hkeeps⟩ := h.refresh
        (refreshMetadata identity request.displayName request.email).1 hid rfl rfl rfl
      exact ⟨names, hgood, hkeeps, trivial⟩

theorem Good.stays_insert (h : Good names db) (request : Provision) :
    Stays rules names db (provisionInsert db request) := by
  unfold provisionInsert
  simp only
  split_ifs with hbusy
  · exact h.stays trivial
  · simp only [Bool.or_eq_true, not_or, Bool.not_eq_true, Option.isSome_eq_false_iff,
      Option.isNone_iff_eq_none] at hbusy
    obtain ⟨hname, hpair⟩ := hbusy
    refine ⟨_, h.provision ?_ ?_, keeps_create rfl rfl, trivial⟩
    · exact fun id row hrow => usernameTaken_eq_false.1 hname id row hrow nofun
    · rintro id identity hid ⟨hissuer, hsubject⟩
      have hmiss := Table.find_eq_none.1 hpair id identity hid
      simp [hissuer, hsubject] at hmiss

theorem Good.stays_deprovision (h : Good names db) (blockers : List String) (id : ℕ) :
    Stays rules names db (Iam.deprovision db blockers id) := by
  unfold Iam.deprovision
  split
  · exact h.stays trivial
  · next identity hid =>
    split
    · exact h.stays trivial
    · split
      · exact h.stays trivial
      · split_ifs
        · obtain ⟨hgood, hkeeps⟩ := h.deprovision hid
          exact ⟨names, hgood, hkeeps, trivial⟩
        · exact h.stays trivial

theorem Good.stays_createUser (h : Good names db) (choice : Choice) (values : UserValues)
    (password : String) : Stays rules names db (createUser rules db choice values password) := by
  unfold createUser
  split
  · exact h.stays trivial
  · next username _ =>
    simp only
    split_ifs with hvalid htaken
    · exact h.stays trivial
    · rw [Bool.and_eq_true] at hvalid
      rw [Bool.not_eq_true] at htaken
      refine ⟨_, h.create ?_ ?_, keeps_create rfl rfl, trivial⟩
      · exact oidcForm_eq_false (rules.normalize_no_colon _ hvalid.2)
      · exact fun id row hrow => usernameTaken_eq_false.1 htaken id row hrow nofun
    · exact h.stays trivial

/-! ### Saves -/

/-- A row with the same username agrees if it is still technical. -/
theorem Agrees.of_username (h : Agrees names id row) (hname : row'.username = row.username)
    (htech : row.Technical → row'.Technical) : Agrees names id row' := by
  unfold Agrees UserRow.oidcName at *
  rw [hname]
  exact ⟨h.1, fun hform => htech (h.2 hform)⟩

theorem getD_of_all {α : Type} [BEq α] [LawfulBEq α] {o : Option α} {a : α}
    (h : o.all (· == a) = true) : o.getD a = a := by
  cases o with
  | none => rfl
  | some b => exact beq_iff_eq.1 h

theorem onto_of_protectedFields {values : UserValues} (h : values.protectedFields row = []) :
    (values.onto row).username = row.username ∧ (row.Technical → (values.onto row).Technical) := by
  simp only [UserValues.protectedFields, List.append_eq_nil_iff, ite_eq_left_iff,
    List.cons_ne_nil, imp_false, not_not] at h
  obtain ⟨⟨hname, hstaff⟩, hsuper⟩ := h
  exact ⟨getD_of_all hname, fun htech => ⟨htech.1, (getD_of_all hstaff).trans htech.2.1,
    (getD_of_all hsuper).trans htech.2.2⟩⟩

theorem oidcForm_onto {values : UserValues} (hlocal : oidcForm row.username = false)
    (hvalid : values.username.all rules.validUsername = true) :
    oidcForm (values.onto row).username = false := by
  unfold UserValues.onto
  cases hname : values.username with
  | none => exact hlocal
  | some username =>
    rw [hname] at hvalid
    exact oidcForm_eq_false (rules.no_colon _ hvalid)

/-- **The save of an update.** The row that it writes agrees with its key, unless it belongs to an
OIDC account that is gone. -/
theorem Good.stays_save (h : Good names db) {values : UserValues} {isOidc : Bool}
    (hfits : (Thread.updateSave user row values isOidc).Fits rules names db)
    (hattended : (Thread.updateSave user row values isOidc).attended db = true) :
    Stays rules names db (saveUser db user (values.onto row)) := by
  have hload : Loaded names db user row := by cases isOidc <;> exact hfits.1
  have hthere : names user ≠ none → (db.users.lookup user).isSome = true := by
    intro hn
    simpa [Thread.attended, hload.2.form hn] using hattended
  have hagree : Agrees names user (values.onto row) := by
    cases isOidc with
    | true =>
      obtain ⟨hname, htech⟩ := onto_of_protectedFields hfits.2
      exact hload.2.of_username hname htech
    | false =>
      obtain ⟨-, hunbound, hvalid⟩ := hfits
      -- an OIDC account would exist and be gone
      have hn : names user = none := by
        by_contra hn
        have := hthere hn
        rw [hunbound.2 hn] at this
        cases this
      exact agrees_local hn (oidcForm_onto (hload.2.form_eq_false hn) hvalid)
  unfold saveUser
  split_ifs with htaken
  · exact h.stays trivial
  · rw [Bool.not_eq_true] at htaken
    obtain ⟨hgood, hkeeps⟩ := h.write hload.1 hagree hthere fun id r hr hne =>
      usernameTaken_eq_false.1 htaken id r hr fun heq => hne (Option.some.inj heq)
    exact ⟨names, hgood, hkeeps, trivial⟩

theorem Good.stays_delete (h : Good names db) (user : ℕ) :
    Stays rules names db (deleteUser db user) := by
  unfold deleteUser
  split_ifs with hbound
  · exact h.stays trivial
  · rw [isOidcAclUser_iff, not_exists] at hbound
    obtain ⟨hgood, hkeeps⟩ := h.delete hbound
    exact ⟨names, hgood, hkeeps, trivial⟩

theorem Good.stays_password (h : Good names db) (hunbound : Unbound names db user)
    (password : String) : Stays rules names db (savePassword db user password) := by
  unfold savePassword
  split
  · exact h.stays trivial
  · next row hrow =>
    have hn : names user = none := by
      by_contra hn
      rw [hunbound.2 hn] at hrow
      cases hrow
    have hagree : Agrees names user { row with password := some password } :=
      agrees_local hn ((h.known hrow).2.form_eq_false hn)
    obtain ⟨hgood, hkeeps⟩ := h.write hunbound.1 hagree (fun hne => absurd hn hne)
      fun id r hr hne hname => hne (h.username_unique hr hrow hname)
    exact ⟨names, hgood, hkeeps, trivial⟩

/-! ### Runs -/

theorem Good.stays_check (h : Good names db) (choice : Choice) {values : UserValues}
    (hload : Loaded names db user row) :
    (checkUpdate rules db choice user row values).Fits rules names db := by
  unfold checkUpdate
  simp only
  split_ifs with hvalid hprotected
  · trivial
  · cases hoidc : db.isOidcAclUser user with
    | true =>
      rw [hoidc, Bool.true_and, Bool.not_eq_true, Bool.not_eq_false', List.isEmpty_iff]
        at hprotected
      exact ⟨hload, hprotected⟩
    | false =>
      rw [hoidc, Bool.false_or, Bool.and_eq_true] at hvalid
      exact ⟨hload, h.unbound hload hoidc, hvalid.2⟩
  · trivial

/-- **One statement.** -/
theorem Good.advance (h : Good names db) {choice : Choice} {thread : Thread}
    {next : Store × Thread} (hfits : thread.Fits rules names db)
    (hattended : thread.attended db = true) (hnext : advance rules db choice thread = some next) :
    Stays rules names db next := by
  -- only inserts, saves and deletions change the store
  cases thread with
  | provisionLookup request =>
    simp only [Iam.advance] at hnext
    split_ifs at hnext
    · split at hnext
      · next id identity hfound =>
        cases hnext
        exact h.stays_found (Table.lookup_of_find hfound).1
      · cases hnext; exact h.stays trivial
    · cases hnext; exact h.stays trivial
  | provisionInsert request => cases hnext; exact h.stays_insert request
  | provisionRetry request =>
    simp only [Iam.advance] at hnext
    split at hnext
    · next id identity hfound =>
      cases hnext
      exact h.stays_found (Table.lookup_of_find hfound).1
    · split_ifs at hnext <;> cases hnext <;> exact h.stays trivial
  | deprovision id => cases hnext; exact h.stays_deprovision _ id
  | createUser values password => cases hnext; exact h.stays_createUser choice values password
  | updateCheck user row values => cases hnext; exact h.stays (h.stays_check choice hfits)
  | updateSave user row values isOidc => cases hnext; exact h.stays_save hfits hattended
  | provisionUsername _ | destroyLookup _ | destroyCheck _ | destroyLookupAgain _ =>
    simp only [Iam.advance] at hnext
    split at hnext <;> cases hnext <;> exact h.stays trivial
  | destroyDelete user => cases hnext; exact h.stays_delete user
  | updateLookup _ _ | passwordLookup _ _ =>
    simp only [Iam.advance] at hnext
    split at hnext <;> cases hnext
    · exact h.stays trivial
    · next hrow => exact h.stays (h.known hrow)
  | passwordCheck user row password =>
    simp only [Iam.advance] at hnext
    split_ifs at hnext with hoidc <;> cases hnext
    · exact h.stays trivial
    · exact h.stays ⟨hfits, h.unbound hfits (Bool.not_eq_true _ ▸ hoidc)⟩
    · exact h.stays trivial
  | passwordSave user row password => cases hnext; exact h.stays_password hfits.2 password
  | done answer => cases hnext

/-- The invariant: the store is good, and so is what every request has found. -/
def Invariant (rules : Rules) (s : System) : Prop :=
  ∃ names, Good names s.db ∧
    ∀ id thread, s.threads.lookup id = some thread → thread.Fits rules names s.db

theorem fits_thread (request : Request) : request.thread.Fits rules names db := by
  cases request <;> trivial

/-- **Every attended step keeps the invariant.** -/
theorem Invariant.step {s t : System} {action : Action} (h : Invariant rules s)
    (hattended : Attended s action) (hstep : s.step rules action = some t) :
    Invariant rules t := by
  obtain ⟨names, hgood, hfits⟩ := h
  cases action with
  | call id request =>
    simp only [System.step] at hstep
    split_ifs at hstep
    cases hstep
    refine ⟨names, hgood, fun k thread hk => ?_⟩
    rw [Table.lookup_insert_eq] at hk
    split_ifs at hk
    · cases hk; exact fits_thread request
    · exact hfits k thread hk
  | run id choice =>
    obtain ⟨thread, hthread, hstep⟩ := Option.bind_eq_some_iff.1 hstep
    obtain ⟨next, hnext, hstep⟩ := Option.bind_eq_some_iff.1 hstep
    cases hstep
    have hatt : thread.attended s.db = true := by simpa [Attended, hthread] using hattended
    obtain ⟨names', hgood', hkeeps, hnew⟩ := hgood.advance (hfits id thread hthread) hatt hnext
    refine ⟨names', hgood', fun k other hk => ?_⟩
    rw [Table.lookup_insert_eq] at hk
    split_ifs at hk
    · cases hk; exact hnew
    · exact (hfits k other hk).mono hkeeps

theorem invariant_of_sound {s : System} (hc : Constrained s.db) (hs : Sound s.db)
    (hidle : s.threads = ∅) : Invariant rules s := by
  have hform : ∀ {user row}, s.db.users.lookup user = some row → oidcForm row.username = true →
      ∃ id, s.db.BoundTo id user := fun hrow hform =>
    ((hs.bound_iff _).1 ⟨_, hrow, hform⟩).exists
  refine ⟨fun id => (s.db.users.lookup id).bind UserRow.oidcName,
    ⟨fun {id row} hrow => ⟨hc.user_lt hrow, ?_, ?_⟩, hc.identity_lt, hc.username_unique, hform,
      ?_, hc.user_unique, hs.pair_unique⟩, ?_⟩
  · simp only [hrow, Option.bind_some]
  · intro hderived
    obtain ⟨k, identity, hid, rfl⟩ := hform hrow hderived
    obtain ⟨row', hrow', -, htech⟩ := hs.derived hid
    rw [hrow] at hrow'
    cases hrow'
    exact htech
  · intro k identity hid
    obtain ⟨row, hrow, hname, -⟩ := hs.derived hid
    exact ⟨row, hrow, hname⟩
  · intro k thread hk
    rw [hidle] at hk
    cases hk

theorem Good.sound (h : Good names db) : Sound db := by
  refine ⟨fun user => ⟨?_, ?_⟩, ?_, h.pair_unique⟩
  · rintro ⟨row, hrow, hform⟩
    obtain ⟨id, identity, hid, huser⟩ := h.bound hrow hform
    refine ⟨id, ⟨identity, hid, huser⟩, ?_⟩
    rintro id' ⟨identity', hid', huser'⟩
    exact h.user_unique hid' hid (huser'.trans huser.symm)
  · rintro ⟨id, hbound, -⟩
    obtain ⟨row, hrow, hn⟩ := h.names_of_bound hbound
    exact ⟨row, hrow, (h.known hrow).2.form hn⟩
  · intro id identity hid
    obtain ⟨row, hrow, hname⟩ := h.owner hid
    exact ⟨row, hrow, hname, (h.known hrow).2.2 (hname ▸ oidcForm_derive _ _)⟩

/-- **OIDC accounts stay bound and unprivileged** in every interleaving in which no update saves the
row of an OIDC account that is gone. -/
theorem oidc_accounts_sound (rules : Rules) {s t : System} (hc : Constrained s.db)
    (hs : Sound s.db) (hidle : s.threads = ∅)
    (run : Reach (fun s => System.step rules s) Attended s t) : Sound t.db := by
  obtain ⟨names, hgood, -⟩ := run.invariant (Invariant rules) (invariant_of_sound hc hs hidle)
    fun _ hinv good next => hinv.step good next
  exact hgood.sound

/-! ### An account saved after its deprovisioning -/

def sampleRules : Rules where
  validUsername s := !s.toList.contains ':'
  normalizeUsername s := s
  normalizeEmail s := s
  approvedIssuer s := s == "https://id.example"
  no_colon s h := by simpa using h
  normalize_no_colon s h := by simpa using h

/-- A system without rows. -/
def emptySystem : System := ⟨⟨∅, ∅, 1, 1⟩, ∅⟩

theorem constrained_empty : Constrained emptySystem.db := ⟨nofun, nofun, nofun, nofun⟩

theorem sound_empty : Sound emptySystem.db := by
  refine ⟨fun user => ⟨?_, ?_⟩, nofun, nofun⟩
  · rintro ⟨row, hrow, -⟩
    cases hrow
  · rintro ⟨id, ⟨identity, hid, -⟩, -⟩
    cases hid

def emailBody : UserValues := ⟨none, some "ada@example.org", none, none, none, none, none⟩

/-- An identity is provisioned, and an update of its user loads the row and checks it. -/
def sampleUpdate : List Action :=
  [.call 0 (.provision ⟨"https://id.example", "ada", none, none⟩), .run 0 {}, .run 0 {}, .run 0 {},
    .call 1 (.update 1 emailBody), .run 1 {}, .run 1 {}]

theorem oidc_accounts_sound_sample :
    ∃ t, Reach (fun s => System.step sampleRules s) Attended emptySystem t ∧
      t.db.isOidcAclUser 1 = true ∧ Sound t.db := by
  have hrun : ((runLabels (fun s => System.step sampleRules s) Attended emptySystem
      (sampleUpdate ++ [.run 1 {}])).any fun t => t.db.isOidcAclUser 1) = true := by
    decide +kernel
  obtain ⟨t, ht, hbound⟩ := (Option.any_eq_true _ _).1 hrun
  have hreach := reach_of_runLabels ht
  exact ⟨t, hreach, hbound,
    oidc_accounts_sound sampleRules constrained_empty sound_empty rfl hreach⟩

/-- **A deprovisioned account comes back.** The identity is deprovisioned between the check and the
save of an update, and the save inserts its user again, without an identity. -/
theorem deprovisioned_account_saved :
    ∃ t, Constrained emptySystem.db ∧ Sound emptySystem.db ∧ emptySystem.threads = ∅ ∧
      Reach (fun s => System.step sampleRules s) Free emptySystem t ∧ ¬ Sound t.db := by
  have hrun : ((runLabels (fun s => System.step sampleRules s) Free emptySystem
      (sampleUpdate ++ [.call 2 (.deprovision 1), .run 2 {}, .run 1 {}])).any fun t =>
        (t.db.users.lookup 1).any (fun row => oidcForm row.username) &&
          !t.db.isOidcAclUser 1) = true := by
    decide +kernel
  obtain ⟨t, ht, hstate⟩ := (Option.any_eq_true _ _).1 hrun
  obtain ⟨hrow, hunbound⟩ := (Bool.and_eq_true _ _).mp hstate
  obtain ⟨row, hlookup, hform⟩ := (Option.any_eq_true _ _).1 hrow
  refine ⟨t, constrained_empty, sound_empty, rfl, reach_of_runLabels ht, fun hsound => ?_⟩
  have hbound := isOidcAclUser_iff.2 ((hsound.bound_iff 1).1 ⟨row, hlookup, hform⟩).exists
  rw [hbound] at hunbound
  cases hunbound

end ArchiDeal.Iam
