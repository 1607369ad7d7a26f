import ArchiDeal.Lib.Json
import ArchiDeal.Lib.Table
import ArchiDeal.Lib.Check
import ArchiDeal.Lib.Transition

/-!
# The device registry

`management_console/device_registry.py`: the validation of device payloads, the SQL statements of
`create_device`, `update_device`, `retire_device`, `get_device` and `list_devices`, and the system
in which any number of clients call them.

A statement of a call is one step; the second statement of an update or a retirement that matched no
row (`_assert_existing_revision`) is a step of its own, so that any other client may act between the
two. PostgreSQL is the parameter `db`, Python's `str.casefold` the parameter `casefold`.
`registry_loses_no_update` says what holds in every run.
-/

namespace ArchiDeal.Registry

open Text Transition

/-! ### Errors -/

/-- What a call raises. -/
inductive RegistryError where
  /-- `DeviceValidationError` -/
  | validation (message : String)
  /-- `DeviceNotFoundError` -/
  | notFound (deviceId : String)
  /-- `DeviceConflictError` -/
  | conflict (deviceId : String)
  | revisionConflict (message : String)
  /-- `RegistryUnavailableError` -/
  | unavailable (message : String)
  /-- `TypeError`, from looking up a list or an object in a set -/
  | unhashable
  deriving DecidableEq

/-- The operation failed in the database: it has been rolled back. -/
def operationFailed : RegistryError := .unavailable "the PostgreSQL registry operation failed"

/-- `database_connection` could not connect. -/
def cannotConnect : RegistryError := .unavailable "the PostgreSQL registry is unavailable"

/-! ### Values -/

/-- `ALL_STATUSES`. -/
inductive Status where
  | provisioning
  | active
  | suspended
  | retired
  deriving DecidableEq

/-- The payload of a request: a Python `dict`. -/
abbrev Payload := List (String × Json)

/-- `_required_string(payload, name, maximum)`. -/
def requiredString (payload : Payload) (name : String) (maximum : ℕ) :
    Except RegistryError String :=
  match payload.lookup name with
  | some (.str value) =>
    let normalized := strip value
    if normalized.toList.isEmpty then
      .error (.validation s!"{name} must be a non-empty string")
    else if normalized.toList.length ≤ maximum then .ok normalized
    else .error (.validation s!"{name} exceeds {maximum} characters")
  | _ => .error (.validation s!"{name} must be a non-empty string")

/-- `[A-Za-z0-9._:-]`. -/
def identifierChar (c : Char) : Bool := alphaDigit c || c == '.' || c == '_' || c == ':' || c == '-'

/-- `[a-z0-9_-]`. -/
def kindChar (c : Char) : Bool := lowerDigit c || c == '_' || c == '-'

def validateDeviceId : Json → Except RegistryError String
  | .str value =>
    if headed alphaDigit identifierChar 0 127 value.toList then .ok value
    else .error (.validation "device_id must match [A-Za-z0-9][A-Za-z0-9._:-]\x7b0,127\x7d")
  | _ => .error (.validation "device_id must match [A-Za-z0-9][A-Za-z0-9._:-]\x7b0,127\x7d")

def validateKind : Json → Except RegistryError String
  | .str value =>
    if headed (fun c => 'a' ≤ c && c ≤ 'z') kindChar 0 63 value.toList then .ok value
    else .error (.validation "kind must be a lowercase device type identifier")
  | _ => .error (.validation "kind must be a lowercase device type identifier")

def statusError : RegistryError :=
  .validation "status must be one of provisioning, active or suspended; use DELETE to retire"

/-- `_validate_status`: a list or an object is not hashable. -/
def validateStatus : Json → Except RegistryError Status
  | .str "provisioning" => .ok .provisioning
  | .str "active" => .ok .active
  | .str "suspended" => .ok .suspended
  | .arr _ | .obj _ => .error .unhashable
  | _ => .error statusError

def validateMqttTopic : Json → Except RegistryError (Option String)
  | .null => .ok none
  | .str value =>
    let normalized := strip value
    if normalized.toList.isEmpty || 512 < normalized.toList.length ||
        normalized.toList.contains '\x00' then
      .error (.validation "mqtt_topic must contain between 1 and 512 safe characters")
    else .ok (some normalized)
  | _ => .error (.validation "mqtt_topic must be a string or null")

/-- The loop of `_validate_capabilities`. -/
def collectCapabilities (capabilities : List String) : List Json →
    Except RegistryError (List String)
  | [] => .ok capabilities
  | .str capability :: rest =>
    if headed alphaDigit identifierChar 0 63 capability.toList then
      collectCapabilities
        (if capability ∈ capabilities then capabilities else capabilities ++ [capability]) rest
    else .error (.validation "capabilities contain an invalid identifier")
  | _ :: _ => .error (.validation "capabilities contain an invalid identifier")

def validateCapabilities : Json → Except RegistryError (List String)
  | .arr value =>
    if value.length ≤ 64 then collectCapabilities [] value
    else .error (.validation "capabilities must be an array containing at most 64 values")
  | _ => .error (.validation "capabilities must be an array containing at most 64 values")

/-! ### Keys of settings and labels -/

def sensitiveKeyComponents : List String :=
  ["auth", "authorization", "bearer", "credential", "credentials", "passwd", "password", "pwd",
   "secret", "secrets", "token", "tokens"]

def sensitiveCompactKeys : List String :=
  ["accesskey", "apikey", "bearertoken", "clientkey", "clientsecret", "privatekey", "refreshtoken",
   "signingkey"]

def sensitiveKeySequences : List (String × String) :=
  [("access", "key"), ("api", "key"), ("client", "key"), ("private", "key"), ("signing", "key")]

/-- `re.sub(r"(?<=[a-z0-9])(?=[A-Z])", "_", key)`. -/
def snake : List Char → List Char
  | a :: b :: cs => if lowerDigit a && upper b then a :: '_' :: snake (b :: cs) else a ::
    snake (b :: cs)
  | cs => cs

/-- The runs of `[a-z0-9]` in a text, read from its end: the first list is the run being read. -/
def runsAux : List Char → List Char × List (List Char)
  | [] => ([], [])
  | c :: cs =>
    let (w, ws) := runsAux cs
    if lowerDigit c then (c :: w, ws) else ([], if w.isEmpty then ws else w :: ws)

section Casefold

variable (casefold : Char → List Char)

/-- `key_components`: every run of other characters is one `_`, those at the ends are stripped, and
the rest is split at `_`. -/
def keyComponents (key : String) : List String :=
  let (w, ws) := runsAux ((snake key.toList).flatMap casefold)
  (if w.isEmpty then ws else w :: ws).map String.ofList

/-- The condition of `_reject_sensitive_keys` on the components of a key. -/
def denied (components : List (List Char)) : Bool :=
  let components := components.map String.ofList
  components.any (· ∈ sensitiveKeyComponents) || "".intercalate components ∈ sensitiveCompactKeys ||
    (components.zip components.tail).any (· ∈ sensitiveKeySequences)

/-- The condition on a key in `_reject_sensitive_keys`. -/
def isSensitive (key : String) : Bool := denied ((keyComponents casefold key).map String.toList)

mutual

def rejectSensitiveKeys (path : String) : Json → Except RegistryError Unit
  | .obj members => rejectSensitiveMembers path members
  | .arr items => rejectSensitiveItems path 0 items
  | _ => .ok ()

/-- The loop over the members of an object. -/
def rejectSensitiveMembers (path : String) : List (String × Json) → Except RegistryError Unit
  | [] => .ok ()
  | (key, nested) :: members => do
    ensure (!isSensitive casefold key)
      (.validation s!"{path}.{key} must be stored in a secret manager")
    rejectSensitiveKeys s!"{path}.{key}" nested
    rejectSensitiveMembers path members

/-- The loop over the items of an array, from an index on. -/
def rejectSensitiveItems (path : String) (index : ℕ) : List Json → Except RegistryError Unit
  | [] => .ok ()
  | nested :: items => do
    rejectSensitiveKeys s!"{path}[{index}]" nested
    rejectSensitiveItems path (index + 1) items

end

def validateObject (name : String) : Json → Except RegistryError (List (String × Json))
  | .obj members => do
    rejectSensitiveKeys casefold name (.obj members)
    return members
  | _ => .error (.validation s!"{name} must be a JSON object")

/-- The condition on an entry in `_validate_labels`. -/
def isLabel : String × Json → Bool
  | (key, .str value) => key.toList.length ≤ 64 && value.toList.length ≤ 256
  | _ => false

def validateLabels (value : Json) : Except RegistryError (List (String × Json)) := do
  let labels ← validateObject casefold "labels" value
  ensure (labels.length ≤ 64) (.validation "labels must contain at most 64 entries")
  ensure (labels.all isLabel) (.validation "label keys and values exceed their allowed format")
  return labels

/-! ### Payloads -/

inductive Field where
  | displayName
  | kind
  | status
  | mqttTopic
  | capabilities
  | settings
  | labels
  deriving DecidableEq

def Field.name : Field → String
  | .displayName => "display_name"
  | .kind => "kind"
  | .status => "status"
  | .mqttTopic => "mqtt_topic"
  | .capabilities => "capabilities"
  | .settings => "settings"
  | .labels => "labels"

def writableFields : List String :=
  ["display_name", "kind", "status", "mqtt_topic", "capabilities", "settings", "labels"]

/-- `validated` of `_validate_fields`: the writable fields that the payload names. -/
structure Values where
  displayName : Option String
  kind : Option String
  status : Option Status
  mqttTopic : Option (Option String)
  capabilities : Option (List String)
  settings : Option (List (String × Json))
  labels : Option (List (String × Json))

/-- `not validated`. -/
def Values.isEmpty (v : Values) : Bool :=
  v.displayName.isNone && v.kind.isNone && v.status.isNone && v.mqttTopic.isNone &&
    v.capabilities.isNone && v.settings.isNone && v.labels.isNone

/-- `if name in payload: validated[name] = validator(payload[name])`. -/
def validated {α : Type} (payload : Payload) (field : Field)
    (validator : Json → Except RegistryError α) : Except RegistryError (Option α) :=
  match payload.lookup field.name with
  | none => .ok none
  | some value => some <$> validator value

def validateFields (payload : Payload) (permittedIdentity : List String) :
    Except RegistryError Values := do
  let unknown := (payload.map (·.1)).filter fun name =>
    !(name ∈ writableFields) && !(name ∈ permittedIdentity)
  ensure unknown.isEmpty
    (.validation ("unknown fields: " ++ ", ".intercalate (unknown.mergeSort Text.le)))
  let displayName ← validated payload .displayName fun value =>
    requiredString [("value", value)] "value" 160
  let kind ← validated payload .kind validateKind
  let status ← validated payload .status validateStatus
  let mqttTopic ← validated payload .mqttTopic validateMqttTopic
  let capabilities ← validated payload .capabilities validateCapabilities
  let settings ← validated payload .settings (validateObject casefold "settings")
  let labels ← validated payload .labels (validateLabels casefold)
  return { displayName, kind, status, mqttTopic, capabilities, settings, labels }

/-- The values of a device that is created. -/
structure NewDevice where
  deviceId : String
  displayName : String
  kind : String
  status : Status
  mqttTopic : Option String
  capabilities : List String
  settings : List (String × Json)
  labels : List (String × Json)

def validateCreatePayload (payload : Payload) : Except RegistryError NewDevice := do
  let values ← validateFields casefold payload ["device_id"]
  let deviceId ← validateDeviceId ((payload.lookup "device_id").getD .null)
  match values.displayName, values.kind with
  | none, _ => .error (.validation "display_name is required")
  | some _, none => .error (.validation "kind is required")
  | some displayName, some kind =>
    return {
      deviceId, displayName, kind
      status := values.status.getD .provisioning
      mqttTopic := values.mqttTopic.getD none
      capabilities := values.capabilities.getD []
      settings := values.settings.getD []
      labels := values.labels.getD [] }

def validatePatchPayload (payload : Payload) : Except RegistryError Values := do
  let values ← validateFields casefold payload []
  ensure (!values.isEmpty) (.validation "PATCH must contain at least one writable field")
  return values

end Casefold

/-- `_actor`. -/
def principalOf (actor : String) : Except RegistryError String :=
  let normalized := strip actor
  if normalized.toList.isEmpty then
    .error (.validation "the authenticated principal has no stable subject")
  else .ok (take 255 normalized)

/-! ### The table -/

/-- A row of `public.devices`. -/
structure Device where
  deviceId : String
  displayName : String
  kind : String
  status : Status
  mqttTopic : Option String
  capabilities : List String
  settings : List (String × Json)
  labels : List (String × Json)
  revision : ℕ
  createdAt : ℕ
  updatedAt : ℕ
  retiredAt : Option ℕ
  createdBy : String
  updatedBy : String

/-- What PostgreSQL makes of its parameters. -/
structure Postgres where
  /-- The object that a `jsonb` column stores; it refuses some. -/
  jsonb : List (String × Json) → Option (List (String × Json))
  /-- `value ILIKE pattern ESCAPE '\'`. -/
  ilike : String → String → Bool
  /-- The order of `ORDER BY device_id`, and of `device_id > cursor`. -/
  collate : String → String → Bool

/-- The text that a column stores: there is none for a text with a NUL. -/
def storedText (s : String) : Option String := if s.toList.contains '\x00' then none else some s

/-- A parameter of a partial update: nothing is stored for a column that is not assigned. -/
def storedWhen {α : Type} (store : α → Option α) : Option α → Option (Option α)
  | none => some none
  | some a => (store a).map some

/-- The rows that are read: a row with `retired_at` is not. -/
def Device.live (d : Device) : Bool := d.retiredAt.isNone

/-- `WHERE device_id = %s AND revision = %s AND retired_at IS NULL`. -/
def matching (devices : Table String Device) (deviceId : String) (revision : ℤ) : Option Device :=
  (devices.lookup deviceId).filter fun d => (d.revision : ℤ) == revision && d.live

def nextRevision (d : Device) : Except RegistryError ℕ :=
  if d.revision + 1 < 2 ^ 63 then .ok (d.revision + 1) else .error operationFailed

section Statements

variable (db : Postgres)

/-- The parameters of an `INSERT`, as they are stored. -/
def storeNew (values : NewDevice) (principal : String) : Option (NewDevice × String) := do
  let displayName ← storedText values.displayName
  let settings ← db.jsonb values.settings
  let labels ← db.jsonb values.labels
  let principal ← storedText principal
  return ({ values with displayName, settings, labels }, principal)

/-- The row of an `INSERT`, with the defaults of the other columns. -/
def newRow (values : NewDevice) (principal : String) (now : ℕ) : Device where
  deviceId := values.deviceId
  displayName := values.displayName
  kind := values.kind
  status := values.status
  mqttTopic := values.mqttTopic
  capabilities := values.capabilities
  settings := values.settings
  labels := values.labels
  revision := 1
  createdAt := now
  updatedAt := now
  retiredAt := none
  createdBy := principal
  updatedBy := principal

/-- The statement of `create_device`: `INSERT … ON CONFLICT (device_id) DO NOTHING RETURNING …`. -/
def insertDevice (devices : Table String Device) (values : NewDevice) (principal : String)
    (now : ℕ) : Except RegistryError (Option Device) :=
  match storeNew db values principal with
  | none => .error operationFailed
  | some (values, principal) =>
    .ok (if (devices.lookup values.deviceId).isSome then none else some
      (newRow values principal now))

/-- The parameters of an `UPDATE`, as they are stored. -/
def storeValues (values : Values) (principal : String) : Option (Values × String) := do
  let displayName ← storedWhen storedText values.displayName
  let settings ← storedWhen db.jsonb values.settings
  let labels ← storedWhen db.jsonb values.labels
  let principal ← storedText principal
  return ({ values with displayName, settings, labels }, principal)

/-- The row after the assignments of `update_device`. -/
def Device.assign (d : Device) (values : Values) (principal : String) (revision now : ℕ) : Device :=
  { d with
    displayName := values.displayName.getD d.displayName
    kind := values.kind.getD d.kind
    status := values.status.getD d.status
    mqttTopic := values.mqttTopic.getD d.mqttTopic
    capabilities := values.capabilities.getD d.capabilities
    settings := values.settings.getD d.settings
    labels := values.labels.getD d.labels
    revision
    updatedAt := now
    updatedBy := principal }

/-- The first statement of `update_device`. -/
def updateRow (devices : Table String Device) (deviceId : String) (values : Values)
    (principal : String) (revision : ℤ) (now : ℕ) : Except RegistryError (Option Device) :=
  match storeValues db values principal with
  | none => .error operationFailed
  | some (values, principal) =>
    match matching devices deviceId revision with
    | none => .ok none
    | some d => (fun next => some (d.assign values principal next now)) <$> nextRevision d

/-- The first statement of `retire_device`. -/
def retireRow (devices : Table String Device) (deviceId : String) (principal : String)
    (revision : ℤ) (now : ℕ) : Except RegistryError (Option Device) :=
  match storedText principal with
  | none => .error operationFailed
  | some principal =>
    match matching devices deviceId revision with
    | none => .ok none
    | some d =>
      (fun next => some { d with
        status := .retired, retiredAt := some now, updatedAt := now, updatedBy := principal
        revision := next }) <$> nextRevision d

def assertExistingRevision (devices : Table String Device) (deviceId : String) (revision : ℤ) :
    RegistryError :=
  match (devices.lookup deviceId).filter Device.live with
  | none => .notFound deviceId
  | some d => .revisionConflict s!"expected revision {d.revision}, received {revision}"

/-- The statement of `get_device`. -/
def selectDevice (devices : Table String Device) (deviceId : String) : Option Device :=
  (devices.lookup deviceId).filter Device.live

/-- The parameters of `list_devices`. -/
structure Listing where
  status : Option String
  kind : Option String
  query : Option String
  limit : ℤ
  cursor : Option String

/-- `s.replace(old, new)`, for one character `old`. -/
def replaceChar (old : Char) (new s : List Char) : List Char :=
  s.flatMap fun c => if c = old then new else [c]

/-- `escaped_query` of `list_devices`. -/
def escapeQuery (query : String) : String :=
  String.ofList (replaceChar '_' ['\\', '_'] (replaceChar '%' ['\\', '%']
    (replaceChar '\\' ['\\', '\\'] query.toList)))

/-- The clauses of `list_devices`. -/
structure Clauses where
  status : Option Status
  kind : Option String
  search : Option String
  cursor : Option String
  limit : ℕ

/-- The `WHERE` of `list_devices`. -/
def Clauses.select (c : Clauses) (d : Device) : Bool :=
  d.live && c.status.all (· == d.status) && c.kind.all (· == d.kind) &&
    c.search.all (fun pattern => db.ilike d.deviceId pattern || db.ilike d.displayName pattern) &&
    c.cursor.all (fun cursor => !db.collate d.deviceId cursor)

/-- The statement of `list_devices`: one row more than its page has. -/
def selectPage (devices : Table String Device) (c : Clauses) : List Device :=
  (((devices.entries.map (·.2)).filter (c.select db)).mergeSort
    fun d e => db.collate d.deviceId e.deviceId).take (c.limit + 1)

end Statements

/-- `if value is not None: …append(validator(value))`. -/
def whenGiven {α : Type} (value : Option String) (validator : String → Except RegistryError α) :
    Except RegistryError (Option α) :=
  match value with
  | none => .ok none
  | some value => some <$> validator value

def searchPattern (query : String) : Except RegistryError String :=
  let normalized := strip query
  if normalized.toList.isEmpty || 160 < normalized.toList.length then
    .error (.validation "q must contain between 1 and 160 characters")
  else .ok ("%" ++ escapeQuery normalized ++ "%")

/-- `list_devices`, up to its statement. -/
def clausesOf (l : Listing) : Except RegistryError Clauses := do
  ensure (1 ≤ l.limit && l.limit ≤ 200) (.validation "limit must be between 1 and 200")
  let status ← whenGiven l.status fun value => validateStatus (.str value)
  let kind ← whenGiven l.kind fun value => validateKind (.str value)
  let search ← whenGiven l.query searchPattern
  let cursor ← whenGiven l.cursor fun value => validateDeviceId (.str value)
  return { status, kind, search, cursor, limit := l.limit.toNat }

/-! ### Calls -/

inductive Call where
  | create (payload : Payload) (actor : String)
  | update (deviceId : String) (payload : Payload) (actor : String) (revision : ℤ)
  | retire (deviceId : String) (actor : String) (revision : ℤ)
  | get (deviceId : String)
  | list (listing : Listing)

/-- The validated call: the statement that it executes first. -/
inductive Statement where
  | insert (values : NewDevice) (principal : String)
  | update (deviceId : String) (values : Values) (principal : String) (revision : ℤ)
  | retire (deviceId : String) (principal : String) (revision : ℤ)
  | select (deviceId : String)
  | page (clauses : Clauses)

/-- The checks of a call before it connects. -/
def Call.prepare (casefold : Char → List Char) : Call → Except RegistryError Statement
  | .create payload actor => do
    let values ← validateCreatePayload casefold payload
    let principal ← principalOf actor
    return .insert values principal
  | .update deviceId payload actor revision => do
    let identifier ← validateDeviceId (.str deviceId)
    let values ← validatePatchPayload casefold payload
    let principal ← principalOf actor
    return .update identifier values principal revision
  | .retire deviceId actor revision => do
    let identifier ← validateDeviceId (.str deviceId)
    let principal ← principalOf actor
    return .retire identifier principal revision
  | .get deviceId => do
    let identifier ← validateDeviceId (.str deviceId)
    return .select identifier
  | .list listing => .page <$> clausesOf listing

/-- What a statement of a call does. -/
inductive Outcome where
  /-- The row was written and committed; the client may not learn of it. -/
  | accepted (row : Device) (reported : Bool)
  /-- Rows were read and are returned. -/
  | returned (rows : List Device) (nextCursor : Option String)
  /-- No row was matched: `_assert_existing_revision` follows. -/
  | missed (deviceId : String) (revision : ℤ)
  | refused (error : RegistryError)

/-- The page that `list_devices` returns. -/
def pageOf (limit : ℕ) (rows : List Device) : Outcome :=
  let selected := rows.take limit
  .returned selected (if limit < rows.length then selected.getLast?.map (·.deviceId) else none)

/-- The outcome of a first statement. -/
def Statement.execute (db : Postgres) (devices : Table String Device) (now : ℕ) (reported : Bool) :
    Statement → Outcome
  | .insert values principal =>
    match insertDevice db devices values principal now with
    | .error e => .refused e
    | .ok none => .refused (.conflict values.deviceId)
    | .ok (some row) => .accepted row reported
  | .update deviceId values principal revision =>
    match updateRow db devices deviceId values principal revision now with
    | .error e => .refused e
    | .ok none => .missed deviceId revision
    | .ok (some row) => .accepted row reported
  | .retire deviceId principal revision =>
    match retireRow devices deviceId principal revision now with
    | .error e => .refused e
    | .ok none => .missed deviceId revision
    | .ok (some row) => .accepted row reported
  | .select deviceId =>
    match selectDevice devices deviceId with
    | none => .refused (.notFound deviceId)
    | some row => .returned [row] none
  | .page clauses =>
    if clauses.search.all fun pattern => (storedText pattern).isSome then
      pageOf clauses.limit (selectPage db devices clauses)
    else .refused operationFailed

/-! ### The system -/

/-- The connection of a call. -/
inductive Link where
  | up
  /-- No connection, or it breaks before the statement is committed. -/
  | down
  /-- The connection breaks after the commit. -/
  | lost
  deriving DecidableEq

/-- A statement of a call, with its outcome. -/
structure Event where
  client : ℕ
  call : Call
  outcome : Outcome

/-- A call whose first statement matched no row. -/
structure Pending where
  call : Call
  deviceId : String
  revision : ℤ

/-- The table, the clients that are between two statements, and what has happened so far, the last
first. -/
structure Store where
  devices : Table String Device
  pending : Table ℕ Pending
  events : List Event

/-- The registry after its first migration. -/
def Store.empty : Store := ⟨∅, ∅, []⟩

/-- A step of a client. -/
inductive Action where
  /-- The client makes a call; its first statement is executed. -/
  | call (client : ℕ) (call : Call) (now : ℕ) (link : Link)
  /-- The second statement of a call whose first one matched no row. -/
  | classify (client : ℕ) (link : Link)

/-- The outcome of a call's first statement. -/
def Store.outcome (db : Postgres) (casefold : Char → List Char) (s : Store) (call : Call)
    (now : ℕ) (link : Link) : Outcome :=
  match call.prepare casefold with
  | .error e => .refused e
  | .ok statement =>
    if link = .down then .refused cannotConnect
    else statement.execute db s.devices now (link = .up)

/-- The outcome is recorded: an accepted row is saved, and a missed one is looked up later. -/
def Store.record (s : Store) (client : ℕ) (call : Call) (outcome : Outcome) : Store where
  devices := match outcome with
    | .accepted row _ => s.devices.insert row.deviceId row
    | _ => s.devices
  pending := match outcome with
    | .missed deviceId revision => s.pending.insert client ⟨call, deviceId, revision⟩
    | _ => s.pending.erase client
  events := ⟨client, call, outcome⟩ :: s.events

/-- One step: a client that is between two statements makes no other call. -/
def Store.step (db : Postgres) (casefold : Char → List Char) (s : Store) :
    Action → Option Store
  | .call client call now link =>
    if (s.pending.lookup client).isSome then none
    else some (s.record client call (s.outcome db casefold call now link))
  | .classify client link =>
    (s.pending.lookup client).map fun p =>
      s.record client p.call (.refused (if link = .up then
        assertExistingRevision s.devices p.deviceId p.revision else operationFailed))

end ArchiDeal.Registry
