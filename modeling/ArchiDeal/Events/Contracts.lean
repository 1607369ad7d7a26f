import ArchiDeal.Lib.Json
import ArchiDeal.Lib.Double

/-!
# Event contracts

The two runtime validators of raw events: `validate_event` of `dealiot-event-contracts/src/lib.rs`
(`Rust.validateEvent`) and of `dealiot_contracts/events.py` (`Python.validateEvent`). Each follows
its own source; they share the tables of fields, which are sets in both languages and are listed
here in sorted order.

An integer has any size. Rust keeps one outside of `i64` and `u64` as a double, and reads every
number as a double before it compares; the double of a float literal is the parameter `double`.
-/

namespace ArchiDeal.Events

open Text

/-! ### Tables -/

def mediaTopics : List String :=
  ["raw.image2d.meta", "raw.image3d.meta", "raw.video2d.meta", "raw.video3d.meta"]

def requiredFields (topic : String) : Option (List String) :=
  if topic = "raw.sensor" then some ["device_id", "payload", "timestamp"]
  else if topic = "raw.gps" then some ["device_id", "latitude", "longitude", "timestamp"]
  else if topic ∈ mediaTopics then
    some ["bucket", "device_id", "format", "object_key", "object_uri", "timestamp"]
  else none

def mediaAllowedFields (topic : String) : List String :=
  if topic = "raw.image2d.meta" then
    ["bucket", "camera_id", "checksum", "content_type", "device_id", "format", "height",
      "ingested_at", "event_id", "occurred_at", "schema_version", "mqtt_topic", "object_key",
      "object_uri", "qos", "retain", "size_bytes", "source", "tags", "timestamp", "width"]
  else if topic = "raw.image3d.meta" then
    ["bucket", "capture_type", "checksum", "content_type", "coordinate_frame", "device_id",
      "format",
      "ingested_at", "event_id", "occurred_at", "schema_version", "mqtt_topic", "object_key",
      "object_uri", "point_count", "qos", "retain", "sensor_id", "size_bytes", "source", "tags",
      "timestamp"]
  else if topic = "raw.video2d.meta" then
    ["bucket", "camera_id", "checksum", "codec", "content_type", "device_id", "duration_ms",
      "format", "frame_count", "frame_rate", "height", "ingested_at", "event_id", "occurred_at",
      "schema_version", "mqtt_topic", "object_key", "object_uri", "qos", "retain", "size_bytes",
      "source", "tags", "timestamp", "width"]
  else if topic = "raw.video3d.meta" then
    ["bucket", "checksum", "codec", "content_type", "device_id", "duration_ms", "format",
      "frame_count", "frame_rate", "height", "ingested_at", "event_id", "occurred_at",
      "schema_version", "mqtt_topic", "object_key", "object_uri", "qos", "representation", "retain",
      "rig_id", "size_bytes", "source", "tags", "timestamp", "views", "width"]
  else []

def stringFields : List String :=
  ["bucket", "camera_id", "capture_type", "checksum", "codec", "content_type", "coordinate_frame",
    "device_id", "event_id", "format", "ingested_at", "mqtt_topic", "object_key", "object_uri",
    "occurred_at", "representation", "rig_id", "schema_version", "sensor_id", "source", "timestamp"]

def integerFields : List String :=
  ["duration_ms", "frame_count", "height", "point_count", "qos", "size_bytes", "views", "width"]

def numberFields : List String :=
  ["altitude_m", "frame_rate", "heading_deg", "latitude", "longitude", "speed_m_s"]

/-- The fields that must not be negative, in the order of both sources. -/
def nonNegativeFields : List String :=
  ["duration_ms", "frame_count", "point_count", "size_bytes", "speed_m_s"]

/-- The fields that must be positive, in the order of both sources. -/
def positiveFields : List String := ["frame_rate", "height", "views", "width"]

/-! ### Events -/

/-- A JSON object. -/
structure Event where
  fields : List (String × Json)
  nodup : (fields.map Prod.fst).Nodup

namespace Event

/-- The value of a field. -/
def get? (e : Event) (field : String) : Option Json := e.fields.lookup field

/-- The names of the fields. -/
def keys (e : Event) : List String := e.fields.map Prod.fst

end Event

def isNull : Json → Bool
  | .null => true
  | _ => false

/-- A text. -/
def isString : Json → Bool
  | .str _ => true
  | _ => false

/-- A boolean. -/
def isBool : Json → Bool
  | .bool _ => true
  | _ => false

def isEmptyValue : Json → Bool
  | .null => true
  | .str s => s.toList.isEmpty
  | _ => false

/-- The message, if the check fails. -/
def reported (fails : Bool) (message : String) : List String := if fails then [message] else []

/-! ### The validator in Rust -/

namespace Rust

/-- `Value::is_i64`. -/
def isI64 : Json → Bool
  | .int n => -2 ^ 63 ≤ n && n < 2 ^ 63
  | _ => false

/-- `Value::is_number`. -/
def isNumber : Json → Bool
  | .int _ | .float _ => true
  | _ => false

/-- `Value::as_f64`. -/
def asF64 (double : FloatLit → ℚ) : Json → Option ℚ
  | .int n => some (Double.roundInt n)
  | .float f => some (double f)
  | _ => none

def sortedKeys (e : Event) : List String := e.keys.mergeSort le

def sortedIntersection (e : Event) (fields : List String) : List String :=
  (sortedKeys e).filter (· ∈ fields)

/-- `b'0'..=b'9' | b'a'..=b'f'`. -/
def hexByte (b : UInt8) : Bool := (48 ≤ b && b ≤ 57) || (97 ≤ b && b ≤ 102)

/-- `is_ascii_digit`. -/
def digitByte (b : UInt8) : Bool := 48 ≤ b && b ≤ 57

/-- The check of `event_id`, in bytes. -/
def validEventId : Json → Bool
  | .str s => (encode s.toList).length == 64 && (encode s.toList).all hexByte
  | _ => false

/-- The parts of a text between dots. -/
def splitDots (s : String) : List (List Char) := s.toList.splitOn '.'

def validSchemaVersion : Json → Bool
  | .str s => (splitDots s).length == 3 &&
      (splitDots s).all fun part => !part.isEmpty && (encode part).all digitByte
  | _ => false

variable (double : FloatLit → ℚ)

def validateTypes (e : Event) : List String :=
  ((sortedIntersection e stringFields).filter fun field =>
    (e.get? field).any fun v => !isNull v && !isString v).map ("field must be a string: " ++ ·) ++
  ((sortedIntersection e integerFields).filter fun field =>
    (e.get? field).any fun v => !isNull v && !isI64 v).map ("field must be an integer: " ++ ·) ++
  ((sortedIntersection e numberFields).filter fun field =>
    (e.get? field).any fun v => !isNull v && !isNumber v).map ("field must be numeric: " ++ ·) ++
  reported ((e.get? "payload").any (!·.isObj)) "field must be an object: payload" ++
  reported ((e.get? "tags").any (!·.isObj)) "field must be an object: tags" ++
  reported ((e.get? "retain").any (!isBool ·)) "field must be a boolean: retain"

/-- The number of a field satisfies the condition. -/
def fieldIs (e : Event) (field : String) (condition : ℚ → Bool) : Bool :=
  ((e.get? field).bind (asF64 double)).any condition

def validateRanges (e : Event) : List String :=
  reported (fieldIs double e "latitude" fun v => !(-90 ≤ v && v ≤ 90))
    "latitude out of range: -90..90" ++
  reported (fieldIs double e "longitude" fun v => !(-180 ≤ v && v ≤ 180))
    "longitude out of range: -180..180" ++
  reported (fieldIs double e "heading_deg" fun v => !(0 ≤ v && v ≤ 360))
    "heading_deg out of range: 0..360" ++
  (nonNegativeFields.filter fun field => fieldIs double e field (· < 0)).map
    (· ++ " must be non-negative") ++
  (positiveFields.filter fun field => fieldIs double e field (· ≤ 0)).map (· ++ " must be positive")

def validateEnvelope (e : Event) : List String :=
  reported ((e.get? "event_id").any (!validEventId ·))
    "event_id must be a 64-character hexadecimal SHA-256 digest" ++
  reported ((e.get? "schema_version").any (!validSchemaVersion ·))
    "schema_version must use semantic version format"

def validateEvent (topic : String) (e : Event) : List String :=
  match requiredFields topic with
  | none => []
  | some required =>
    (required.filter fun field => (e.get? field).all isEmptyValue).map
      ("missing required field: " ++ ·) ++
    (if topic ∈ mediaTopics then
      ((sortedKeys e).filter fun field => !(field ∈ mediaAllowedFields topic)).map
        (("field not allowed by " ++ topic ++ ": ") ++ ·)
    else []) ++
    validateTypes e ++ validateRanges double e ++ validateEnvelope e

end Rust

/-! ### The validator in Python -/

namespace Python

/-- `isinstance(v, int)`: a boolean is an integer. -/
def isInt : Json → Bool
  | .bool _ | .int _ => true
  | _ => false

/-- `isinstance(v, int | float)`. -/
def isIntOrFloat : Json → Bool
  | .bool _ | .int _ | .float _ => true
  | _ => false

/-- The value of a number. -/
def number (double : FloatLit → ℚ) : Json → Option ℚ
  | .bool b => some (if b then 1 else 0)
  | .int n => some n
  | .float f => some (double f)
  | _ => none

/-- The check of `event_id`, in characters. -/
def validEventId : Json → Bool
  | .str s => isHexDigest s
  | _ => false

def validSchemaVersion : Json → Bool
  | .str s => (Rust.splitDots s).length == 3 &&
      (Rust.splitDots s).all fun part => !part.isEmpty && part.all isDigit
  | _ => false

variable (double : FloatLit → ℚ)

/-- `sorted(FIELDS & set(event))`. -/
def present (e : Event) (fields : List String) : List String := fields.filter (· ∈ e.keys)

def validateTypes (e : Event) : List String :=
  ((present e stringFields).filter fun field =>
    (e.get? field).any fun v => !isNull v && !isString v).map ("field must be a string: " ++ ·) ++
  ((present e integerFields).filter fun field =>
    (e.get? field).any fun v => !isNull v && !isInt v).map ("field must be an integer: " ++ ·) ++
  ((present e numberFields).filter fun field =>
    (e.get? field).any fun v => !isNull v && !isIntOrFloat v).map
      ("field must be numeric: " ++ ·) ++
  reported ((e.get? "payload").any (!·.isObj)) "field must be an object: payload" ++
  reported ((e.get? "tags").any (!·.isObj)) "field must be an object: tags" ++
  reported ((e.get? "retain").any (!isBool ·)) "field must be a boolean: retain"

/-- The number of a field satisfies the condition. -/
def fieldIs (e : Event) (field : String) (condition : ℚ → Bool) : Bool :=
  ((e.get? field).bind (number double)).any condition

def validateRanges (e : Event) : List String :=
  reported (fieldIs double e "latitude" fun v => !(-90 ≤ v && v ≤ 90))
    "latitude out of range: -90..90" ++
  reported (fieldIs double e "longitude" fun v => !(-180 ≤ v && v ≤ 180))
    "longitude out of range: -180..180" ++
  reported (fieldIs double e "heading_deg" fun v => !(0 ≤ v && v ≤ 360))
    "heading_deg out of range: 0..360" ++
  (nonNegativeFields.filter fun field => fieldIs double e field (· < 0)).map
    (· ++ " must be non-negative") ++
  (positiveFields.filter fun field => fieldIs double e field (· ≤ 0)).map (· ++ " must be positive")

/-- `_validate_envelope`: a value that is `None` is not checked. -/
def validateEnvelope (e : Event) : List String :=
  reported ((e.get? "event_id").any fun v => !isNull v && !validEventId v)
    "event_id must be a 64-character hexadecimal SHA-256 digest" ++
  reported ((e.get? "schema_version").any fun v => !isNull v && !validSchemaVersion v)
    "schema_version must use semantic version format"

def validateEvent (topic : String) (e : Event) : List String :=
  match requiredFields topic with
  | none => []
  | some required =>
    (required.filter fun field => (e.get? field).all isEmptyValue).map
      ("missing required field: " ++ ·) ++
    (if topic ∈ mediaTopics then
      ((e.keys.filter fun field => !(field ∈ mediaAllowedFields topic)).mergeSort le).map
        (("field not allowed by " ++ topic ++ ": ") ++ ·)
    else []) ++
    validateTypes e ++ validateRanges double e ++ validateEnvelope e

end Python

end ArchiDeal.Events
