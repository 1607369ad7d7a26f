import ArchiDeal.Catalogue.Models
import ArchiDeal.Lib.Fields

/-!
# Principals

Who makes a request: `apps/common/authentication.py`, `apps/common/oidc.py` and
`apps/common/permissions.py`. The answer of the introspection endpoint is the input `claims`;
Python's `str.casefold` and `str` of a list or an object are parameters.
-/

namespace ArchiDeal.Catalogue

open Text Fields

/-! ### Users -/

structure TokenUser where
  username : String
  isStaff : Bool := false
  isSuperuser : Bool := false
  oidcIssuer : Option String := none
  oidcSubject : Option String := none
  oidcGroups : List String := []
  deriving DecidableEq

/-- What `derive_oidc_acl_username` hashes. -/
def oidcKey (issuer subject : String) : List Char := issuer.toList ++ '\x00' :: subject.toList

def deriveOidcAclUsername (issuer subject : String) : String :=
  "oidc:" ++ Sha256.hexdigest (encode (oidcKey issuer subject))

/-- A text that Python counts as true. -/
def given (s : Option String) : Option String := s.filter fun s => !s.toList.isEmpty

def TokenUser.aclUsername (u : TokenUser) : String :=
  match given u.oidcIssuer, given u.oidcSubject with
  | some issuer, some subject => deriveOidcAclUsername issuer subject
  | _, _ => u.username

/-- `request.user`: a local account, or the user of a bearer token. -/
inductive Principal where
  | account (id : ℕ) (user : User)
  | token (user : TokenUser)

def Principal.isStaff : Principal → Bool
  | .account _ u => u.isStaff
  | .token u => u.isStaff

/-! ### Bearer tokens -/

/-- The settings of the OIDC clients, as `dealhost/settings/prod.py` accepts them. -/
structure OidcSettings where
  issuer : String
  audience : String
  readGroups : List String
  adminGroups : List String
  groupsClaim : String
  issuer_https : "https://".toList.isPrefixOf issuer.toList = true

def forbiddenGroupsClaims : List String := ["scope", "scp", "roles", "realm_access",
    "realm_access.roles"]

section Authentication

variable (casefold : String → String) (py : FloatText) (repr : Json → String)
  (settings : OidcSettings) (claims : Json)

def configuredGroupsClaimName : Option String :=
  let name := strip settings.groupsClaim
  if name.toList.isEmpty || settings.groupsClaim != name || 255 < name.toList.length ||
      name.toList.contains '\x00' || casefold name ∈ forbiddenGroupsClaims then none
  else some name

def claimValues : Except String (List String) :=
  match configuredGroupsClaimName casefold settings with
  | none => .error "Invalid OIDC groups claim configuration."
  | some name =>
    match claims.get? name with
    | some (.arr values) =>
      match Json.strings values with
      | some groups =>
        .ok (if groups.all fun g => !(strip g).toList.isEmpty && g == strip g then groups else [])
      | none => .ok []
    | _ => .ok []

def audiences : List String :=
  match claims.get? "aud" with
  | some (.str audience) => [audience]
  | some (.arr values) => values.map (pyStr py repr)
  | _ => []

/-- The `sub` of a token, if it is stable. -/
def stableSubject : Option String :=
  match claims.get? "sub" with
  | some (.str subject) =>
    if subject.toList.isEmpty || subject != strip subject || 255 < subject.toList.length ||
        subject.toList.contains '\x00' then none
    else some subject
  | _ => none

/-- The name of a token's user. -/
def tokenUsername (subject : String) : String :=
  match (claims.get? "preferred_username").filter Json.truthy with
  | some v => pyStr py repr v
  | none =>
    match (claims.get? "email").filter Json.truthy with
    | some v => pyStr py repr v
    | none => subject

def authenticateOidc : Except String TokenUser := do
  ensure (claims.isObj && Json.isTrue (claims.get? "active")) "Invalid bearer token."
  ensure (claims.get? "iss" == some (.str settings.issuer)) "Invalid bearer token issuer."
  ensure (settings.audience ∈ audiences py repr claims) "Invalid bearer token audience."
  let groups ← claimValues casefold settings claims
  let isAdmin := groups.any (· ∈ settings.adminGroups)
  ensure (isAdmin || groups.any (· ∈ settings.readGroups)) "Bearer token has no authorized group."
  match stableSubject claims with
  | none => .error "Bearer token has no stable subject."
  | some subject =>
    return {
      username := tokenUsername py repr claims subject
      isStaff := isAdmin
      isSuperuser := isAdmin
      oidcIssuer := some settings.issuer
      oidcSubject := some subject
      oidcGroups := groups }

def adminTokenUser : TokenUser :=
  { username := "dealhost-admin-token", isStaff := true, isSuperuser := true }

end Authentication

/-! ### Permissions -/

/-- `IsStaffOrAuthenticatedReadOnly`, of a request that is not safe. -/
def requireStaff (user : Principal) : Handler Unit :=
  ensure user.isStaff
    (.response (answer 403 (.detail "You do not have permission to perform this action.")))

/-! ### Access to datasets -/

/-- The local account of a principal: `acl_user` of `DatasetViewSet.get_queryset`. -/
def aclUser (db : Database) : Principal → Option ℕ
  | .account id _ => some id
  | .token u =>
    let username := strip ((given (some u.aclUsername)).getD u.username)
    if username.toList.isEmpty then none
    else (db.users.find fun _ row => row.username == username && row.isActive).map (·.1)

def externalGroups : Principal → List String
  | .account _ _ => []
  | .token u => u.oidcGroups.filter fun g => !(strip g).toList.isEmpty

def groupsOf (db : Database) (account : ℕ) : Finset ℕ :=
  ((db.users.lookup account).map User.groups).getD ∅

end ArchiDeal.Catalogue
