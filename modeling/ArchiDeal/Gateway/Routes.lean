import ArchiDeal.Catalogue.Models
import ArchiDeal.Lib.Fields
import ArchiDeal.Lib.Sha256
import ArchiDeal.Lib.Urls

/-!
# Route plans

`ApisixService` of `apps/gateway/services.py`: the plan of a module's APISIX route, its entity tag
and its publication. The repository and module manifests and the settings are read when the service
is made; the modules are those that `select_for_update` returns, in the order of their keys.

Paths and host names are folded with `str.casefold`, which is a parameter like `ip_address` and the
texts of floats, lists and objects.
-/

namespace ArchiDeal.Gateway

open Text
open Catalogue (Module)

/-- Functions of Python's library. -/
structure Python where
  floats : Fields.FloatText
  /-- `str` of a list or an object. -/
  repr : Json → String
  /-- `str.casefold`, character by character. -/
  fold : Char → List Char
  /-- `ipaddress.ip_address` accepts the text. -/
  isIpAddress : String → Bool
  fold_ascii : ∀ c : Char, c.toNat < 128 → fold c = [c.toLower]

/-- `str` of decoded JSON. -/
def Python.str (py : Python) : Json → String := Fields.pyStr py.floats py.repr

/-- `int` of decoded JSON, `none` if it raises. -/
def Python.int (py : Python) : Json → Option ℤ
  | .bool b => some (if b then 1 else 0)
  | .int n => some n
  | .float f => py.floats.int f
  | .str s => Fields.pyInt s
  | _ => none

/-- `s.casefold()`. -/
def Python.casefold (py : Python) (s : String) : List Char := s.toList.flatMap py.fold

/-- The subclasses of `RoutePublicationError`. -/
inductive Refusal where
  | disabledModule
  | unknownModule
  | routePreviewRequired
  | invalidRoutePreviewEtag
  | staleRoutePreview
  | unsafeRoutePath
  | routePathConflict
  | missingRoutePolicy
  | unsafeUpstream
  | moduleNotProductionReady
  deriving DecidableEq

/-- What a call raises. -/
inductive Raised where
  | refused (refusal : Refusal) (message : String)
  | value (message : String)
  | key (name : String)
  /-- `int` of a value that is no number. -/
  | conversion
  /-- An exception of the HTTP client. -/
  | transport
  deriving DecidableEq

/-! ### Paths -/

/-- `cs.rstrip("/")`. -/
def rstripSlash (cs : List Char) : List Char := (cs.reverse.dropWhile (· == '/')).reverse

/-- `"//" in cs`. -/
def doubleSlash : List Char → Bool
  | '/' :: '/' :: _ => true
  | _ :: cs => doubleSlash cs
  | [] => false

/-- The characters after the first one of `_PUBLIC_PATH_SEGMENT_PATTERN`. -/
def segmentChar (c : Char) : Bool := alphaDigit c || c == '.' || c == '_' || c == '~' || c == '-'

/-- `_PUBLIC_PATH_SEGMENT_PATTERN.fullmatch`: `[A-Za-z0-9][A-Za-z0-9._~-]*`. -/
def segmentPattern : List Char → Bool
  | [] => false
  | c :: cs => alphaDigit c && cs.all segmentChar

/-- `UnsafeRoutePathError`. -/
def unsafePath (message : String) : Raised := .refused .unsafeRoutePath message

def validatedPublicPath (value : String) : Except Raised String := do
  ensure (value == strip value && value.toList.head? == some '/')
    (unsafePath "public_path must be an absolute path without surrounding whitespace")
  let path := if value = "/" then value else String.ofList (rstripSlash value.toList)
  ensure (path != "/") (unsafePath "public_path cannot replace the root interface route")
  ensure (!(doubleSlash path.toList || path.toList.contains '\\' || path.toList.contains '%'))
    (unsafePath "public_path contains an ambiguous path encoding")
  ensure (((path.toList.drop 1).splitOn '/').all segmentPattern)
    (unsafePath "public_path contains an unsafe path segment")
  return path

/-- The folded path is the other one, or continues it after a slash. -/
def foldedWithin (path root : List Char) : Bool := path == root || (root ++ ['/']).isPrefixOf path

def pathIsWithin (py : Python) (path root : String) : Bool :=
  foldedWithin (py.casefold path) (py.casefold root)

def pathsOverlap (py : Python) (first second : String) : Bool :=
  pathIsWithin py first second || pathIsWithin py second first

def systemReservedPathPrefixes : List String :=
  ["/oauth2", "/healthz", "/readyz", "/apisix", "/dealhost", "/dealiot", "/dealdata"]

/-! ### Upstreams -/

/-- `_DNS_LABEL_PATTERN.fullmatch`. -/
def dnsLabel (cs : List Char) : Bool :=
  edged alphaDigit (fun c => alphaDigit c || c == '-') cs && cs.length ≤ 63

def unsafeUpstream (message : String) : Raised := .refused .unsafeUpstream message

def validatedDnsHostname (py : Python) (value label : String) : Except Raised String := do
  let host := py.casefold value
  ensure (value == strip value && !host.isEmpty && host.length ≤ 253)
    (unsafeUpstream s!"{label} must be a strict DNS hostname")
  ensure (!(host.getLast? == some '.' || host == "localhost".toList ||
      ".localhost".toList.isSuffixOf host))
    (unsafeUpstream s!"{label} cannot target localhost")
  ensure (!py.isIpAddress (String.ofList host)) (unsafeUpstream s!"{label} cannot be an IP address")
  ensure (!(!(host.filter (· != '.')).isEmpty && (host.filter (· != '.')).all isDigit))
    (unsafeUpstream s!"{label} cannot be a numeric IP representation")
  ensure ((host.splitOn '.').all dnsLabel) (unsafeUpstream
    s!"{label} must be a strict DNS hostname")
  return String.ofList host

def validatedUpstreamPort (py : Python) (value : Json) : Except Raised ℤ :=
  match value with
  | .bool _ => .error (unsafeUpstream "upstream_port must be an integer")
  | v =>
    match py.int v with
    | none => .error (unsafeUpstream "upstream_port must be an integer")
    | some port => do
      ensure (1 ≤ port && port ≤ 65535)
        (unsafeUpstream "upstream_port must be between 1 and 65535")
      return port

def oidcIntrospectingUpstreamHosts : List String :=
  ["dealhost", "dealiot", "dealdata-core", "dealdata-gps", "dealdata-sensor"]

/-- `raw.rpartition(":")`, `none` without a colon. -/
def rpartitionColon (raw : List Char) : Option (List Char × List Char) :=
  if raw.contains ':' then
    let back := raw.reverse
    some ((back.dropWhile (· != ':')).tail.reverse, (back.takeWhile (· != ':')).reverse)
  else none

/-! ### The service -/

/-- `ApisixConfig`, the settings and the manifests that `ApisixService` reads. -/
structure Service where
  adminUrl : String
  adminKey : String
  upstreamHost : String
  upstreamPort : ℤ
  routeAllowedUpstreamHosts : List String := []
  routeAllowedUpstreamSuffixes : List String := []
  routeAllowedUpstreamPorts : List ℤ := []
  routeAllowedUpstreams : List String := []
  routeReservedPathPrefixes : List String := []
  debug : Bool
  /-- `settings.FORCE_SCRIPT_NAME`, empty if there is none. -/
  forceScriptName : String := ""
  /-- The default routes, by module slug. -/
  routeDefaults : List (String × Json) := []
  knownModuleSlugs : List String := []
  moduleManifests : List (String × Json) := []

variable (py : Python) (service : Service)

/-- `route[name]`. -/
def item (route : Json) (name : String) : Except Raised Json :=
  match route.get? name with
  | some v => .ok v
  | none => .error (.key name)

/-- One manifest route in `_trusted_development_upstreams`. -/
def manifestUpstream (route : Json) : Except Raised (String × ℤ) := do
  let host ← validatedDnsHostname py (py.str ((route.get? "upstream_host").getD (.str "")))
    "manifest upstream_host"
  let port ← validatedUpstreamPort py ((route.get? "upstream_port").getD .null)
  return (host, port)

def trustedDevelopmentUpstreams : Except Raised (List String × List ℤ) := do
  let host ← validatedDnsHostname py service.upstreamHost "APISIX_UPSTREAM_HOST"
  let port ← validatedUpstreamPort py (.int service.upstreamPort)
  let routes ← service.routeDefaults.mapM fun entry => manifestUpstream py entry.2
  return (host :: routes.map Prod.fst, port :: routes.map Prod.snd)

/-- The allowed hosts, suffixes, ports and pairs. -/
structure Policy where
  hosts : List String
  suffixes : List String
  ports : List ℤ
  upstreams : List (String × ℤ)

/-- One round of the loop over `configured_upstreams`. -/
def addUpstream (allowed : List (String × ℤ)) (raw : String) :
    Except Raised (List (String × ℤ)) := do
  let canonical := unsafeUpstream "allowed upstream must use canonical host:port syntax"
  match rpartitionColon raw.toList with
  | none => .error canonical
  | some (host, port) => do
    ensure (!host.isEmpty && !port.isEmpty && raw == strip raw) canonical
    let host ← validatedDnsHostname py (String.ofList host) "allowed upstream host"
    let port ← validatedUpstreamPort py (.str (String.ofList port))
    ensure (s!"{host}:{port}" == raw) canonical
    ensure (!allowed.contains (host, port))
      (unsafeUpstream "allowed upstreams must not contain duplicates")
    return allowed ++ [(host, port)]

def upstreamPolicy : Except Raised Policy := do
  let hosts := service.routeAllowedUpstreamHosts
  let suffixes := service.routeAllowedUpstreamSuffixes
  let ports := service.routeAllowedUpstreamPorts
  let upstreams := service.routeAllowedUpstreams
  ensure (service.debug ||
      ((!hosts.isEmpty || !suffixes.isEmpty) && !ports.isEmpty && !upstreams.isEmpty))
    (.refused .missingRoutePolicy ("Production route publication requires explicit host/suffix, " ++
      "port and exact host:port allowlists"))
  let (allowedHosts, developmentPorts) ←
    if service.debug && hosts.isEmpty && suffixes.isEmpty then
      trustedDevelopmentUpstreams py service
    else do
      let allowed ← hosts.mapM (validatedDnsHostname py · "allowed upstream host")
      pure (allowed, [])
  let allowedSuffixes ← suffixes.mapM fun suffix =>
    validatedDnsHostname py
      (if suffix.toList.head? = some '.' then String.ofList suffix.toList.tail else suffix)
      "allowed upstream suffix"
  let allowedPorts ←
    if service.debug && ports.isEmpty then
      if developmentPorts.isEmpty then Prod.snd <$> trustedDevelopmentUpstreams py service
      else pure developmentPorts
    else ports.mapM fun port => validatedUpstreamPort py (.int port)
  let allowedUpstreams ← upstreams.foldlM (addUpstream py) []
  return ⟨allowedHosts, allowedSuffixes, allowedPorts, allowedUpstreams⟩

def validateUpstream (upstreamHost : String) (upstreamPort : ℤ) : Except Raised (String × ℤ) := do
  let host ← validatedDnsHostname py upstreamHost "upstream_host"
  let port ← validatedUpstreamPort py (.int upstreamPort)
  let policy ← upstreamPolicy py service
  ensure (policy.hosts.contains host ||
      policy.suffixes.any fun suffix => host == suffix ||
        ('.' :: suffix.toList).isSuffixOf host.toList)
    (unsafeUpstream "upstream_host is not in the route allowlist")
  ensure (policy.ports.contains port) (unsafeUpstream "upstream_port is not in the route allowlist")
  ensure (policy.upstreams.isEmpty || policy.upstreams.contains (host, port))
    (unsafeUpstream "upstream host:port pair is not in the exact route allowlist")
  return (host, port)

/-! ### The path of a route -/

def reservedPrefixes : List String :=
  systemReservedPathPrefixes ++ service.routeReservedPathPrefixes ++
    if service.forceScriptName = "" then [] else [service.forceScriptName]

def reservedPathPrefixes : Except Raised (List String) := do
  let prefixes ← (reservedPrefixes service).mapM validatedPublicPath
  return prefixes.eraseDups

/-- The default routes as protected paths. -/
def protectedDefaults (moduleSlug : String) : Except Raised (List (String × String)) :=
  service.routeDefaults.mapM fun entry => do
    let slug := entry.1
    let source := if slug = moduleSlug then "the module's bootstrap route"
      else s!"bootstrap route for {slug}"
    let path ← validatedPublicPath (py.str (← item entry.2 "public_path"))
    return (path, source)

/-- The modules whose paths are protected. -/
def otherModules (moduleSlug : String) (modules : List Module) : List Module :=
  modules.filter fun m => m.enabled && m.slug != moduleSlug && m.publicPath != ""

/-- The paths of the other modules as protected paths. -/
def protectedModules (moduleSlug : String) (modules : List Module) :
    Except Raised (List (String × String)) :=
  (otherModules moduleSlug modules).mapM fun m => do
    let slug := m.slug
    let path ← validatedPublicPath m.publicPath
    return (path, s!"enabled module {slug}")

/-- The loop over `protected_paths`, with the folded paths seen so far. -/
def checkProtected (path : String) : List (String × String) → List (List Char) →
    Except Raised Unit
  | [], _ => .ok ()
  | (protectedPath, source) :: rest, seen =>
    let key := py.casefold protectedPath
    if seen.contains key then checkProtected path rest seen
    else do
      ensure (!pathsOverlap py path protectedPath) (.refused .routePathConflict
        s!"public_path overlaps {source}: {protectedPath}")
      checkProtected path rest (key :: seen)

/-- The loop over the reserved prefixes. -/
def checkReserved (path root : String) : Except Raised Unit :=
  ensure (!pathIsWithin py path root) (unsafePath s!"public_path is under reserved prefix: {root}")

def validateRoutePath (moduleSlug publicPath : String) (modules : List Module) :
    Except Raised String := do
  let path ← validatedPublicPath publicPath
  let defaults ← protectedDefaults py service moduleSlug
  let others ← protectedModules moduleSlug modules
  checkProtected py path (defaults ++ others) []
  let prefixes ← reservedPathPrefixes service
  prefixes.forM (checkReserved py path)
  return path

def validateProductionReadiness (moduleSlug : String) : Except Raised Unit :=
  ensure (service.debug || (service.moduleManifests.lookup moduleSlug).any fun manifest =>
      Json.isTrue (manifest.get? "production_ready"))
    (.refused .moduleNotProductionReady ("Dynamic route publication requires a reviewed module " ++
      s!"manifest with production_ready=true: {moduleSlug}"))

/-! ### The plan -/

def routeIdForModule (moduleSlug : String) : String :=
  if "module-".toList.isPrefixOf moduleSlug.toList then moduleSlug else "module-" ++ moduleSlug

def normalizeModuleSlug (value : String) : Except Raised String := do
  let moduleSlug := strip value
  ensure (Fields.isSlug moduleSlug)
    (.value "module_slug must contain only letters, numbers, hyphens or underscores")
  return moduleSlug

/-- What `_build_route_plan` returns. -/
inductive Plan where
  /-- `_skip_without_public_upstream`. -/
  | skipped (routeId : String)
  | route (routeId : String) (payload : Json)
  deriving DecidableEq

def Plan.routeId : Plan → String
  | skipped routeId => routeId
  | route routeId _ => routeId

def reEscape (cs : List Char) : List Char :=
  cs.flatMap fun c => if "()[]\x7b\x7d?*+-|^$\\.&~# \t\n\r\x0b\x0c".toList.contains c then ['\\', c]
    else [c]

/-- The header policy of a production route. -/
def headerPolicy (upstreamHost : String) : Json :=
  let proto : String × Json := ("X-Forwarded-Proto", .str "$http_x_forwarded_proto")
  if oidcIntrospectingUpstreamHosts.contains upstreamHost then
    .obj [("set", .obj [proto, ("Authorization", .str "Bearer $http_x_forwarded_access_token")]),
      ("remove", .arr [.str "X-Forwarded-Access-Token"])]
  else
    .obj [("set", .obj [proto]),
      ("remove", .arr [.str "Authorization", .str "X-Forwarded-Access-Token"])]

/-- The plugins of a route. -/
def plugins (debug : Bool) (publicPath upstreamHost : String) : Json :=
  let regex := String.ofList ('^' :: (reEscape publicPath.toList ++ "(?:/(.*))?$".toList))
  let rewrite : List (String × Json) :=
    [("regex_uri", .arr [.str regex, .str "/$1"]), ("host", .str upstreamHost)]
  if debug then .obj [("proxy-rewrite", .obj rewrite)]
  else .obj [("prometheus", .obj []),
    ("opentelemetry", .obj [("sampler", .obj [("name", .str "always_on")])]),
    ("proxy-rewrite", .obj (rewrite ++ [("headers", headerPolicy upstreamHost)]))]

/-- The body of the route. -/
def payload (debug : Bool) (routeId publicPath upstreamHost : String) (upstreamPort : ℤ) : Json :=
  .obj [("uris", .arr [.str publicPath, .str (publicPath ++ "/*")]), ("name", .str routeId),
    ("priority", .int 100), ("plugins", plugins debug publicPath upstreamHost),
    ("upstream", .obj [("type", .str "roundrobin"), ("pass_host", .str "node"),
      ("nodes", .obj [(s!"{upstreamHost}:{upstreamPort}", .int 1)])])]

/-- The route that the settings and the manifests give to a module. -/
def defaultTarget (moduleSlug : String) : Except Raised (String × String × ℤ) :=
  match service.routeDefaults.lookup moduleSlug with
  | none => .ok ("/" ++ moduleSlug, service.upstreamHost, service.upstreamPort)
  | some route =>
    if route.truthy then do
      let publicPath := py.str (← item route "public_path")
      let upstreamHost := py.str (← item route "upstream_host")
      match py.int (← item route "upstream_port") with
      | some upstreamPort => return (publicPath, upstreamHost, upstreamPort)
      | none => .error .conversion
    else .ok ("/" ++ moduleSlug, service.upstreamHost, service.upstreamPort)

/-- The route that the module gives itself, `none` to skip the publication. -/
def target (moduleSlug : String) (default : String × String × ℤ) (modules : List Module) :
    Except Raised (Option (String × String × ℤ)) :=
  match modules.find? fun candidate => candidate.slug == moduleSlug with
  | some m =>
    if m.enabled then
      match m.upstreamPort with
      | some port =>
        if m.publicPath = "" ∨ m.upstreamHost = "" then .ok none
        -- a port 0 is replaced by the default
        else .ok (some (m.publicPath, m.upstreamHost, if port = 0 then default.2.2 else port))
      | none => .ok none
    else .error (.refused .disabledModule
      s!"Cannot publish a route for disabled module: {moduleSlug}")
  | none =>
    if (service.routeDefaults.lookup moduleSlug).isSome then .ok (some default)
    else if service.knownModuleSlugs.contains moduleSlug then .ok none
    else .error (.refused .unknownModule s!"Unknown module: {moduleSlug}")

def buildRoutePlan (modules : List Module) (slug : String) : Except Raised Plan := do
  let moduleSlug ← normalizeModuleSlug slug
  let routeId := routeIdForModule moduleSlug
  let default ← defaultTarget py service moduleSlug
  match ← target service moduleSlug default modules with
  | none => return .skipped routeId
  | some (publicPath, upstreamHost, upstreamPort) => do
    let publicPath ← validateRoutePath py service moduleSlug publicPath modules
    validateProductionReadiness service moduleSlug
    let (upstreamHost, upstreamPort) ← validateUpstream py service upstreamHost upstreamPort
    return .route routeId (payload service.debug routeId publicPath upstreamHost upstreamPort)

/-! ### Publication -/

/-- The plan as `_route_plan_etag` writes it. -/
def Plan.canonicalPlan : Plan → Json
  | skipped routeId =>
    .obj [("payload", .null), ("route_id", .str routeId), ("skipped", .bool true)]
  | route routeId payload =>
    .obj [("payload", payload), ("route_id", .str routeId), ("skipped", .bool false)]

def Plan.etag (plan : Plan) : String :=
  "\"sha256-" ++ Sha256.hexdigest plan.canonicalPlan.canonical ++ "\""

def strongRouteEtag (s : String) : Bool :=
  s.toList.take 8 == "\"sha256-".toList && (s.toList.drop 8).length == 65 &&
    ((s.toList.drop 8).take 64).all hexDigit && s.toList.getLast? == some '"'

def validatedRoutePreviewEtag (value : Option String) : Except Raised String :=
  let required := Raised.refused .routePreviewRequired "A route preview ETag is required"
  match value with
  | none => .error required
  | some value => do
    let etag := strip value
    ensure (etag != "") required
    ensure (strongRouteEtag etag) (.refused .invalidRoutePreviewEtag
      "If-Match must contain exactly one strong route preview ETag")
    return etag

/-- The request to the APISIX administration interface. -/
structure Put where
  url : String
  key : String
  body : Json
  deriving DecidableEq

/-- The request that publishes a route. -/
def Service.put (service : Service) (routeId : String) (payload : Json) : Put where
  url := service.adminUrl ++ "/apisix/admin/routes/" ++ Urls.quote Urls.unreserved routeId
  key := service.adminKey
  body := payload

/-- What `publish_route` returns. -/
structure Result where
  plan : Plan
  dryRun : Bool
  etag : String
  response : Json

/-- The end of a call, with the request that it sent. -/
structure Outcome where
  sent : Option Put
  result : Except Raised Result

/-- `_publish_route_locked` with the plan that `_build_route_plan` made; `send` is what the
administration interface answers. -/
def publishPlan (send : Put → Except Raised Json) (dryRun : Bool) (previewEtag : Option String)
    (plan : Plan) : Outcome :=
  if previewEtag.any (· != plan.etag) then
    ⟨none, .error (.refused .staleRoutePreview
      "The effective APISIX route no longer matches the preview")⟩
  else if dryRun then ⟨none, .ok ⟨plan, dryRun, plan.etag, .null⟩⟩
  else
    match plan with
    | .skipped _ => ⟨none, .ok ⟨plan, dryRun, plan.etag, .null⟩⟩
    | .route routeId payload =>
      let request := service.put routeId payload
      ⟨some request, (send request).map fun response => ⟨plan, dryRun, plan.etag, response⟩⟩

/-- `publish_route`. The header is checked before any route data is read. -/
def publishRoute (send : Put → Except Raised Json) (modules : List Module) (slug : String)
    (dryRun : Bool) (expectedEtag : Option String) (requirePreview : Bool) : Outcome :=
  let previewEtag : Except Raised (Option String) :=
    if requirePreview && !dryRun then some <$> validatedRoutePreviewEtag expectedEtag else .ok none
  match previewEtag with
  | .error e => ⟨none, .error e⟩
  | .ok previewEtag =>
    match buildRoutePlan py service modules slug with
    | .error e => ⟨none, .error e⟩
    | .ok plan => publishPlan service send dryRun previewEtag plan

end ArchiDeal.Gateway
