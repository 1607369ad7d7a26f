import ArchiDeal.Catalogue.Principals
import ArchiDeal.Lib.Transition

/-!
# Accounts and their OIDC identities

`apps/iam/services.py` and `UserViewSet` of `apps/iam/views.py`. A request is a thread of
statements; between two of them other requests may commit. Provisioning and deprovisioning hold row
locks in one transaction, so that their statements on rows that they have found are one step. The
handlers of the User API run without a transaction: each of their statements is a step, and `row` is
what they loaded.

Groups and permissions are left out. What `deprovision_oidc_acl_identity` finds of them, and whether
a serializer accepts the rest of a body, is the `Choice` of a step.
-/

namespace ArchiDeal.Iam

open Text Transition
open Catalogue (deriveOidcAclUsername)

/-! ### Rows -/

/-- `User`; the password is `none` if it is not usable. -/
structure UserRow where
  username : String
  email : String
  firstName : String
  lastName : String
  isActive : Bool
  isStaff : Bool
  isSuperuser : Bool
  password : Option String
  deriving DecidableEq

structure OidcAclIdentity where
  user : ℕ
  issuer : String
  subject : String
  displayName : String
  email : String
  deriving DecidableEq

/-- The two tables, with the sequences of their keys. -/
structure Store where
  users : Table ℕ UserRow
  identities : Table ℕ OidcAclIdentity
  nextUser : ℕ
  nextIdentity : ℕ

/-- `OIDCAclIdentity.objects.filter(issuer=issuer, subject=subject).first()`. -/
def Store.identityOf (db : Store) (issuer subject : String) : Option (ℕ × OidcAclIdentity) :=
  db.identities.find fun _ i => i.issuer == issuer && i.subject == subject

def Store.isOidcAclUser (db : Store) (user : ℕ) : Bool :=
  db.identities.any fun _ i => i.user == user

/-- A row other than `user` has the username. -/
def Store.usernameTaken (db : Store) (user : Option ℕ) (username : String) : Bool :=
  db.users.any fun id u => some id != user && u.username == username

/-! ### Requests -/

/-- The validators that the handlers call. -/
structure Rules where
  /-- The validators of a submitted `username`. -/
  validUsername : String → Bool
  normalizeUsername : String → String
  normalizeEmail : String → String
  approvedIssuer : String → Bool
  no_colon : ∀ s, validUsername s = true → ':' ∉ s.toList
  normalize_no_colon : ∀ s, validUsername s = true → ':' ∉ (normalizeUsername s).toList

/-- `validate_oidc_subject`. -/
def validSubject (subject : String) : Bool :=
  !subject.toList.isEmpty && subject == strip subject && !subject.toList.contains '\x00'

/-- The arguments of `provision_oidc_acl_identity`. -/
structure Provision where
  issuer : String
  subject : String
  displayName : Option String
  email : Option String

/-- The validated fields that a body names. -/
structure UserValues where
  username : Option String
  email : Option String
  firstName : Option String
  lastName : Option String
  isActive : Option Bool
  isStaff : Option Bool
  isSuperuser : Option Bool

/-- `setattr` of the validated fields. -/
def UserValues.onto (values : UserValues) (row : UserRow) : UserRow :=
  { row with
    username := values.username.getD row.username
    email := values.email.getD row.email
    firstName := values.firstName.getD row.firstName
    lastName := values.lastName.getD row.lastName
    isActive := values.isActive.getD row.isActive
    isStaff := values.isStaff.getD row.isStaff
    isSuperuser := values.isSuperuser.getD row.isSuperuser }

def UserValues.protectedFields (values : UserValues) (row : UserRow) : List String :=
  (if values.username.all (· == row.username) then [] else ["username"]) ++
  (if values.isStaff.all (· == row.isStaff) then [] else ["is_staff"]) ++
  if values.isSuperuser.all (· == row.isSuperuser) then [] else ["is_superuser"]

inductive Request where
  | provision (request : Provision)
  | deprovision (identity : ℕ)
  | createUser (values : UserValues) (password : String)
  | update (user : ℕ) (values : UserValues)
  | destroy (user : ℕ)
  | setPassword (user : ℕ) (password : String)

/-- How a request ends. -/
inductive Answer where
  | provisioned (identity : ℕ) (created metadataUpdated : Bool)
  | deprovisioned (identity user : ℕ) (aclUsername : String)
  /-- `OIDCAclIdentityConflict`. -/
  | conflict (message : String)
  /-- A response of the User API. -/
  | response (status : ℕ)
  /-- Any other exception. -/
  | raised
  deriving DecidableEq

/-- A request between two statements. -/
inductive Thread where
  | provisionLookup (request : Provision)
  | provisionUsername (request : Provision)
  | provisionInsert (request : Provision)
  | provisionRetry (request : Provision)
  | deprovision (identity : ℕ)
  | createUser (values : UserValues) (password : String)
  | updateLookup (user : ℕ) (values : UserValues)
  | updateCheck (user : ℕ) (row : UserRow) (values : UserValues)
  | updateSave (user : ℕ) (row : UserRow) (values : UserValues) (isOidc : Bool)
  | destroyLookup (user : ℕ)
  | destroyCheck (user : ℕ)
  | destroyLookupAgain (user : ℕ)
  | destroyDelete (user : ℕ)
  | passwordLookup (user : ℕ) (password : String)
  | passwordCheck (user : ℕ) (row : UserRow) (password : String)
  | passwordSave (user : ℕ) (row : UserRow) (password : String)
  | done (answer : Answer)

/-- The first statement of a request. -/
def Request.thread : Request → Thread
  | provision request => .provisionLookup request
  | deprovision identity => .deprovision identity
  | createUser values password => .createUser values password
  | update user values => .updateLookup user values
  | destroy user => .destroyLookup user
  | setPassword user password => .passwordLookup user password

/-! ### Statements -/

/-- What a step does not compute. -/
structure Choice where
  /-- The serializer accepts the rest of the body. -/
  valid : Bool := true
  /-- The assignments that refer to the user. -/
  blockers : List String := []

/-- `_assert_consistent_binding`, `some` is the message of its exception. -/
def bindingConflict (user : UserRow) (expectedUsername : String) : Option String :=
  if user.username ≠ expectedUsername then
    some "The existing OIDC identity is linked to an unexpected ACL username."
  else if user.password.isSome || user.isStaff || user.isSuperuser then
    some "The existing OIDC identity is not bound to an unprivileged passwordless user."
  else none

def refreshMetadata (identity : OidcAclIdentity) (displayName email : Option String) :
    OidcAclIdentity × Bool :=
  let refreshed := { identity with
    displayName := displayName.getD identity.displayName
    email := email.getD identity.email }
  (refreshed, refreshed != identity)

/-- The rest of a provisioning that has found an identity. The row of its user exists. -/
def provisionFound (db : Store) (request : Provision) (id : ℕ) (identity : OidcAclIdentity) :
    Store × Thread :=
  match db.users.lookup identity.user with
  | none => (db, .done .raised)
  | some user =>
    match bindingConflict user (deriveOidcAclUsername request.issuer request.subject) with
    | some message => (db, .done (.conflict message))
    | none =>
      let (refreshed, updated) := refreshMetadata identity request.displayName request.email
      ({ db with identities := db.identities.insert id refreshed },
        .done (.provisioned id false updated))

def technicalUser (username : String) : UserRow where
  username := username
  email := ""
  firstName := ""
  lastName := ""
  isActive := true
  isStaff := false
  isSuperuser := false
  password := none

/-- The two inserts of `_provision_once`. -/
def provisionInsert (db : Store) (request : Provision) : Store × Thread :=
  let username := deriveOidcAclUsername request.issuer request.subject
  if db.usernameTaken none username || (db.identityOf request.issuer request.subject).isSome then
    -- `IntegrityError`
    (db, .provisionRetry request)
  else
    ({ users := db.users.insert db.nextUser (technicalUser username)
       identities := db.identities.insert db.nextIdentity
        { user := db.nextUser, issuer := request.issuer, subject := request.subject,
          displayName := request.displayName.getD "", email := request.email.getD "" }
       nextUser := db.nextUser + 1
       nextIdentity := db.nextIdentity + 1 },
      .done (.provisioned db.nextIdentity true false))

/-- The message of a provisioning whose username is taken. -/
def usernameOwned : Answer :=
  .conflict "The derived ACL username is already owned by another Django user."

/-- `deprovision_oidc_acl_identity`. -/
def deprovision (db : Store) (blockers : List String) (id : ℕ) : Store × Thread :=
  match db.identities.lookup id with
  | none => (db, .done (.response 404))
  | some identity =>
    match db.users.lookup identity.user with
    | none => (db, .done .raised)
    | some user =>
      match bindingConflict user (deriveOidcAclUsername identity.issuer identity.subject) with
      | some message => (db, .done (.conflict message))
      | none =>
        if blockers.isEmpty then
          ({ db with identities := db.identities.erase id, users := db.users.erase identity.user },
            .done (.deprovisioned id identity.user user.username))
        else
          let found := ", ".intercalate blockers
          (db, .done (.conflict ("The OIDC ACL identity is still referenced by access-control " ++
            s!"assignments: {found}.")))

def createUser (rules : Rules) (db : Store) (choice : Choice) (values : UserValues)
    (password : String) : Store × Thread :=
  match values.username with
  | none => (db, .done (.response 400))
  | some username =>
    if choice.valid && rules.validUsername username then
      let row := { values.onto (technicalUser username) with
        username := rules.normalizeUsername username
        email := rules.normalizeEmail (values.email.getD "")
        password := some password }
      if db.usernameTaken none row.username then (db, .done .raised)
      else
        ({ db with users := db.users.insert db.nextUser row, nextUser := db.nextUser + 1 },
          .done (.response 201))
    else (db, .done (.response 400))

/-- `Model.save`: an `UPDATE` of the row or, without one, an `INSERT`. -/
def saveUser (db : Store) (user : ℕ) (row : UserRow) : Store × Thread :=
  if db.usernameTaken (some user) row.username then (db, .done .raised)
  else ({ db with users := db.users.insert user row }, .done (.response 200))

/-- The check and the validation of an update. The validators of the username of an OIDC user are
removed. -/
def checkUpdate (rules : Rules) (db : Store) (choice : Choice) (user : ℕ) (row : UserRow)
    (values : UserValues) : Thread :=
  let isOidc := db.isOidcAclUser user
  if choice.valid && (isOidc || values.username.all rules.validUsername) then
    if isOidc && !(values.protectedFields row).isEmpty then .done (.response 409)
    else .updateSave user row values isOidc
  else .done (.response 400)

def deleteUser (db : Store) (user : ℕ) : Store × Thread :=
  if db.isOidcAclUser user then (db, .done .raised)
  else ({ db with users := db.users.erase user }, .done (.response 204))

/-- `user.save(update_fields=["password"])`, which raises if there is no row. -/
def savePassword (db : Store) (user : ℕ) (password : String) : Store × Thread :=
  match db.users.lookup user with
  | none => (db, .done .raised)
  | some row =>
    ({ db with users := db.users.insert user { row with password := some password } },
      .done (.response 204))

/-- The next statement of a request; `none` if it has ended. -/
def advance (rules : Rules) (db : Store) (choice : Choice) : Thread → Option (Store × Thread)
  | .provisionLookup request =>
    if rules.approvedIssuer request.issuer && validSubject request.subject then
      match db.identityOf request.issuer request.subject with
      | some (id, identity) => some (provisionFound db request id identity)
      | none => some (db, .provisionUsername request)
    else some (db, .done .raised)
  | .provisionUsername request =>
    if db.usernameTaken none (deriveOidcAclUsername request.issuer request.subject) then
      some (db, .done usernameOwned)
    else some (db, .provisionInsert request)
  | .provisionInsert request => some (provisionInsert db request)
  | .provisionRetry request =>
    match db.identityOf request.issuer request.subject with
    | some (id, identity) => some (provisionFound db request id identity)
    | none =>
      if db.usernameTaken none (deriveOidcAclUsername request.issuer request.subject) then
        some (db, .done usernameOwned)
      else some (db, .done .raised)
  | .deprovision id => some (deprovision db choice.blockers id)
  | .createUser values password => some (createUser rules db choice values password)
  | .updateLookup user values =>
    match db.users.lookup user with
    | none => some (db, .done (.response 404))
    | some row => some (db, .updateCheck user row values)
  | .updateCheck user row values => some (db, checkUpdate rules db choice user row values)
  | .updateSave user row values _ => some (saveUser db user (values.onto row))
  | .destroyLookup user =>
    match db.users.lookup user with
    | none => some (db, .done (.response 404))
    | some _ => some (db, .destroyCheck user)
  | .destroyCheck user =>
    if db.isOidcAclUser user then some (db, .done (.response 409))
    else some (db, .destroyLookupAgain user)
  | .destroyLookupAgain user =>
    -- `super().destroy` calls `get_object` again
    match db.users.lookup user with
    | none => some (db, .done (.response 404))
    | some _ => some (db, .destroyDelete user)
  | .destroyDelete user => some (deleteUser db user)
  | .passwordLookup user password =>
    match db.users.lookup user with
    | none => some (db, .done (.response 404))
    | some row => some (db, .passwordCheck user row password)
  | .passwordCheck user row password =>
    if db.isOidcAclUser user then some (db, .done (.response 409))
    else if choice.valid then some (db, .passwordSave user row password)
    else some (db, .done (.response 400))
  | .passwordSave user _ password => some (savePassword db user password)
  | .done _ => none

/-! ### Systems -/

/-- The store and the requests. -/
structure System where
  db : Store
  threads : Table ℕ Thread

/-- An action: a new request, or the next statement of one. -/
inductive Action where
  | call (id : ℕ) (request : Request)
  | run (id : ℕ) (choice : Choice)

def System.step (rules : Rules) (s : System) : Action → Option System
  | .call id request =>
    if (s.threads.lookup id).isSome then none
    else some { s with threads := s.threads.insert id request.thread }
  | .run id choice => do
    let thread ← s.threads.lookup id
    let (db, next) ← advance rules s.db choice thread
    return ⟨db, s.threads.insert id next⟩

end ArchiDeal.Iam
