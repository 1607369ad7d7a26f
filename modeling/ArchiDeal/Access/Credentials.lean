import ArchiDeal.Catalogue.Principals
import ArchiDeal.Lib.JsonOrder

/-!
# Static credentials

Three services compare a credential of a request with configured tokens: DEALHost
(`apps/common/authentication.py`), DEALData (`dealdata_common/views.py`) and the management console
of DEALIoT (`management_console/app.py`). The bytes of a header reach Python decoded as Latin-1;
DEALHost encodes them again and decodes the token as UTF-8.

`hmac.compare_digest` takes texts of ASCII characters only. An identity provider is the parameter
`introspect`, whose answer is the decoded body.
-/

namespace ArchiDeal.Access

open Text Catalogue

/-- `s.isascii()`. -/
def isAscii (s : String) : Bool := s.toList.all fun c => c.toNat < 128

inductive Raised where
  | authenticationFailed (message : String)
  | type
  deriving DecidableEq

/-- The whitespace of `bytes.split`. -/
def isByteSpace (b : UInt8) : Bool := b == 32 || (9 ≤ b && b ≤ 13)

/-- The parts of a header, read from its end: the first list is the part being read. -/
def splitAux : List UInt8 → List UInt8 × List (List UInt8)
  | [] => ([], [])
  | b :: bs =>
    let (w, ws) := splitAux bs
    if isByteSpace b then ([], if w.isEmpty then ws else w :: ws) else (b :: w, ws)

def split (header : List UInt8) : List (List UInt8) :=
  let (w, ws) := splitAux header
  if w.isEmpty then ws else w :: ws

def lower (part : List UInt8) : List UInt8 :=
  part.map fun b => if 65 ≤ b && b ≤ 90 then b + 32 else b

/-- `b"bearer"`. -/
def keyword : List UInt8 := encode "bearer".toList

/-- The settings that `EnvBearerAuthentication` reads. -/
structure HostSettings where
  adminTokens : List String
  apiTokens : List String
  /-- `_authenticate_oidc`: a user, none without an introspection endpoint, or the message of an
  `AuthenticationFailed`. -/
  authenticateOidc : String → Except String (Option TokenUser)
  /-- The user of an introspected token has an issuer. -/
  hasIssuer : ∀ token user, authenticateOidc token = .ok (some user) → user.oidcIssuer ≠ none

/-- Functions of Python's library, and the identity provider. -/
structure Environment where
  casefold : String → String
  floatText : Fields.FloatText
  repr : Json → String
  /-- The answer to a token, `none` if the request or its decoding failed. -/
  introspect : String → Option Json

/-- `_authenticate_oidc` with the production settings. -/
def introspectedUser (env : Environment) (oidc : OidcSettings) (token : String) :
    Except String (Option TokenUser) :=
  match env.introspect token with
  | none => .error "OIDC token validation failed."
  | some claims =>
    some <$> Catalogue.authenticateOidc env.casefold env.floatText env.repr oidc claims

/-- A response of DEALData. -/
structure Response where
  status : ℕ
  detail : String
  deriving DecidableEq

/-- DEALHost handles the scheme of the header. -/
def Handled (header : List UInt8) : Prop := ∃ scheme rest, split header = scheme :: rest ∧
  lower scheme = keyword

theorem introspectedUser_hasIssuer {env : Environment} {oidc : OidcSettings} {token : String}
    {user : TokenUser} (h : introspectedUser env oidc token = .ok (some user)) :
    user.oidcIssuer ≠ none := by
  unfold introspectedUser at h
  split at h
  · cases h
  · obtain ⟨u, hu, hsome⟩ := map_eq_ok.1 h
    cases hsome
    obtain ⟨_, -, hu⟩ := bind_eq_ok.1 hu
    obtain ⟨_, -, hu⟩ := bind_eq_ok.1 hu
    obtain ⟨_, -, hu⟩ := bind_eq_ok.1 hu
    obtain ⟨_, -, hu⟩ := bind_eq_ok.1 hu
    obtain ⟨_, -, hu⟩ := bind_eq_ok.1 hu
    split at hu
    · cases hu
    · cases hu
      nofun

/-- The settings of a production service. -/
def HostSettings.ofOidc (adminTokens apiTokens : List String) (env : Environment)
    (oidc : OidcSettings) : HostSettings where
  adminTokens := adminTokens
  apiTokens := apiTokens
  authenticateOidc := introspectedUser env oidc
  hasIssuer _ _ := introspectedUser_hasIssuer

variable {settings : HostSettings} {token : String} {header : List UInt8}

/-- An environment without an identity provider. -/
def sampleEnvironment : Environment :=
  ⟨id, ⟨fun _ => "", fun _ => none⟩, fun _ => "", fun _ => none⟩

end ArchiDeal.Access
