import ArchiDeal.Lib.JsonOrder
import ArchiDeal.Lib.Sha256
import ArchiDeal.Events.Contracts
import ArchiDeal.Streams.Normalizer
import ArchiDeal.Streams.Topics

/-!
# The MQTT bridge

`mqtt-kafka-bridge/src/lib.rs`: how a message of an MQTT topic becomes an event of a Kafka topic.

* `decodePayload`: the JSON value of a payload, or its bytes in an object;
* `eventIdForDelivery`: the identifier, which a redelivery keeps if the payload names one;
* `buildEvent`: the event, with the fields of the topic it is routed to.

An object is the list of its members without repetition; the order of the members, which a
`serde_json::Map` keeps sorted, plays no role.
-/

namespace ArchiDeal.Events.Event

/-! ### Objects -/

/-- `Map::new()`. -/
def empty : Event := ⟨[], List.nodup_nil⟩

/-- `map.insert(field, value)`. -/
def insert (e : Event) (field : String) (v : Json) : Event :=
  ⟨Json.setItem e.fields (field, v), Json.nodup_setItem e.nodup _⟩

/-- `map.entry(field).or_insert(value)`. -/
def orInsert (e : Event) (field : String) (v : Json) : Event :=
  if (e.get? field).isSome then e else e.insert field v

/-- Insertions, one after the other. -/
def insertAll (e : Event) (kvs : List (String × Json)) : Event :=
  kvs.foldl (fun e p => e.insert p.1 p.2) e

def ofObject : Json → Option Event
  | .obj kvs => some (empty.insertAll kvs)
  | _ => none

theorem lookup_cons_if (p : String × Json) (d : List (String × Json)) (field : String) :
    (p :: d).lookup field = if field = p.1 then some p.2 else d.lookup field := by
  rw [List.lookup_cons]
  by_cases h : field = p.1
  · rw [if_pos h, beq_iff_eq.2 h]
  · rw [if_neg h, beq_eq_false_iff_ne.2 h]

theorem lookup_eq_none_of_notMem {d : List (String × Json)} {field : String}
    (h : field ∉ d.map Prod.fst) : d.lookup field = none := by
  rw [List.lookup_eq_none_iff]
  intro p hp
  rw [bne_iff_ne]
  rintro rfl
  exact h (List.mem_map_of_mem hp)

theorem lookup_replace (d : List (String × Json)) (p : String × Json) (field : String)
    (h : p.1 ∈ d.map Prod.fst) :
    (d.map fun q => if q.1 = p.1 then p else q).lookup field =
      if field = p.1 then some p.2 else d.lookup field := by
  induction d with
  | nil => simp at h
  | cons q d ih =>
    rw [List.map_cons, lookup_cons_if, lookup_cons_if]
    by_cases hq : q.1 = p.1
    · by_cases hmem : p.1 ∈ d.map Prod.fst
      · rw [ih hmem]
        split_ifs <;> simp_all
      · have hsame : (d.map fun q => if q.1 = p.1 then p else q) = d := by
          refine (List.map_congr_left fun r hr => if_neg fun hrp => hmem ?_).trans (List.map_id d)
          exact hrp ▸ List.mem_map_of_mem hr
        rw [hsame]
        split_ifs <;> simp_all
    · rw [if_neg hq, ih (by simpa [Ne.symm hq] using h)]
      split_ifs with hf hp hp
      · exact absurd (hf.symm.trans hp) hq
      all_goals rfl

theorem lookup_setItem (d : List (String × Json)) (p : String × Json) (field : String) :
    (Json.setItem d p).lookup field = if field = p.1 then some p.2 else d.lookup field := by
  unfold Json.setItem
  split_ifs with hmem hfield hfield
  · rw [lookup_replace d p field hmem, if_pos hfield]
  · rw [lookup_replace d p field hmem, if_neg hfield]
  · subst hfield
    rw [List.lookup_append, lookup_eq_none_of_notMem hmem, Option.none_or, lookup_cons_if,
      if_pos rfl]
  · rw [List.lookup_append, lookup_cons_if, if_neg hfield]
    simp

theorem get?_insert (e : Event) (field other : String) (v : Json) :
    (e.insert field v).get? other = if other = field then some v else e.get? other :=
  lookup_setItem e.fields (field, v) other

end ArchiDeal.Events.Event

namespace ArchiDeal.Streams.Bridge

open JsonText Py Text Events

/-! ### Libraries -/

/-- What `serde_json`, `chrono` and the arithmetic of doubles compute. -/
structure Libraries where
  serde : Rust.Serde
  /-- A literal of the double that `serde_json` reads. -/
  float : NumberLit → FloatLit
  double : FloatLit → ℚ
  /-- `Number::to_string` of a double. -/
  floatText : FloatLit → String
  /-- `Value::to_string` of an array or an object. -/
  text : Json → String
  /-- Division and multiplication of doubles. -/
  div : ℚ → ℚ → ℚ
  mul : ℚ → ℚ → ℚ
  /-- `Utc.timestamp_opt(seconds, nanos).single()`, written by `to_rfc3339`. -/
  timestamp : ℤ → ℕ → Option String

def isWhiteSpace (c : Char) : Bool :=
  let n := c.toNat
  (9 ≤ n && n ≤ 13) || n == 0x20 || n == 0x85 || n == 0xa0 || n == 0x1680 ||
    (0x2000 ≤ n && n ≤ 0x200a) || n == 0x2028 || n == 0x2029 || n == 0x202f || n == 0x205f ||
    n == 0x3000

def trim (s : String) : String :=
  String.ofList (((s.toList.dropWhile isWhiteSpace).reverse.dropWhile isWhiteSpace).reverse)

def base64Digit (n : ℕ) : Char :=
  if n < 26 then Char.ofNat (65 + n) else if n < 52 then Char.ofNat (71 + n)
  else if n < 62 then Char.ofNat (n - 4) else if n = 62 then '+' else '/'

/-- `general_purpose::STANDARD.encode`. -/
def base64 : List UInt8 → List Char
  | a :: b :: c :: bytes =>
    let n := a.toNat * 2 ^ 16 + b.toNat * 2 ^ 8 + c.toNat
    base64Digit (n / 2 ^ 18) :: base64Digit (n / 2 ^ 12 % 64) :: base64Digit (n / 2 ^ 6 % 64) ::
      base64Digit (n % 64) :: base64 bytes
  | [a, b] =>
    let n := a.toNat * 2 ^ 16 + b.toNat * 2 ^ 8
    [base64Digit (n / 2 ^ 18), base64Digit (n / 2 ^ 12 % 64), base64Digit (n / 2 ^ 6 % 64), '=']
  | [a] =>
    let n := a.toNat * 2 ^ 16
    [base64Digit (n / 2 ^ 18), base64Digit (n / 2 ^ 12 % 64), '=', '=']
  | [] => []

/-! ### Payloads -/

section Payloads

variable (lib : Libraries)

mutual

/-- The `Value` of a tree. Rust reads neither the constants nor surrogates. -/
def value : Tree → Json
  | .null => .null
  | .bool b => .bool b
  | .num n =>
    match Rust.integer n with
    | some i => .int i
    | none => .float (lib.float n)
  | .nan | .infinity _ => .null
  | .str s => .str (s.text?.getD "")
  | .arr xs => .arr (values xs)
  | .obj kvs => .obj (Json.dictOf (members kvs))

@[inherit_doc value]
def values : List Tree → List Json
  | [] => []
  | v :: xs => value v :: values xs

@[inherit_doc value]
def members : List (Str × Tree) → List (String × Json)
  | [] => []
  | (k, v) :: kvs => (k.text?.getD "", value v) :: members kvs

end

def decodePayload (payload : List UInt8) : Json :=
  match (utf8 payload).map fun text => (Rust.dialect lib.serde).read text.toList with
  | some (.ok tree) => value lib tree
  | _ => .obj [("payload_b64", .str (String.ofList (base64 payload)))]

def valueToString : Json → String
  | .null => "null"
  | .bool true => "true"
  | .bool false => "false"
  | .int n => String.ofList (Json.intText n)
  | .float f => lib.floatText f
  | .str s => s
  | v => lib.text v

def trunc (q : ℚ) : ℤ := q.num.tdiv q.den

/-- A conversion with `as` to a type of integers. -/
def clamp (lo hi n : ℤ) : ℤ := max lo (min hi n)

def unixMillisecondsThreshold : ℚ := 10000000000

/-- The text of a Unix time. -/
def unixTimestamp (raw : ℚ) : Option String :=
  let seconds := if raw > unixMillisecondsThreshold then lib.div raw 1000 else raw
  let whole := clamp (-2 ^ 63) (2 ^ 63 - 1) (trunc seconds)
  let nanos := clamp 0 (2 ^ 32 - 1) (trunc (lib.mul (seconds - trunc seconds) 1000000000))
  lib.timestamp whole nanos.toNat

def normalizedTimestamp (v : Option Json) (fallback : String) : String :=
  match v with
  | none | some .null => fallback
  | some (.str s) => if s = "" then fallback else s
  | some v =>
    match Events.Rust.asF64 lib.double v with
    | some raw => (unixTimestamp lib raw).getD fallback
    | none => valueToString lib v

def pickEventTimestamp (decoded : Json) (fallback : String) : String :=
  match Event.ofObject decoded with
  | none => fallback
  | some object =>
    match ["timestamp", "utcTimestamp", "utc_timestamp", "time"].find?
        (fun field => (object.get? field).isSome) with
    | some field => normalizedTimestamp lib (object.get? field) fallback
    | none => fallback

end Payloads

/-! ### Topics -/

def isWildfiTopic (topic : String) (prefixes : List String) : Bool :=
  (["wildfi", "wild-fi"] ++ prefixes).any fun marker =>
    marker ∈ (topicParts topic).map asciiLower

def kafkaTopicPatterns : List (String × List String) :=
  [("raw.gps", ["gps", "/gnss/", "rawgps"]),
    ("raw.video3d.meta", ["video3d", "/stereo-video/", "/volumetric-video/"]),
    ("raw.video2d.meta", ["video2d", "/video/", "/camera-stream/"]),
    ("raw.image2d.meta", ["image2d", "/camera/", "/image/"]),
    ("raw.image3d.meta", ["image3d", "/lidar/", "/pointcloud/"])]

def pickKafkaTopic (topic defaultTopic : String) (wildfiPrefixes : List String) : String :=
  let lowered := lit (asciiLower topic)
  match kafkaTopicPatterns.find? fun entry => entry.2.any (contains lowered) with
  | some entry => entry.1
  | none =>
    if contains lowered "sensor" || (isWildfiTopic topic wildfiPrefixes &&
        wildfiSensorMarkers.any (contains lowered)) then "raw.sensor"
    else defaultTopic

def eventSourceForTopic (topic : String) (wildfiPrefixes : List String) : String :=
  if isWildfiTopic topic wildfiPrefixes then "wildfi-mqtt" else "mqtt-bridge"

/-! ### Identifiers -/

/-- The fields of a payload that may identify a measurement, in order. -/
def identityFields : List String :=
  ["event_id", "eventId", "message_id", "messageId", "measurement_id", "measurementId", "sequence",
    "sequence_id", "sequenceId", "counter"]

section Identifiers

variable (lib : Libraries)

/-- The identity that a field gives: a text that is not blank, or a number. -/
def identityOf (object : Event) (field : String) : Option String :=
  ((object.get? field).bind fun
    | .str s => some (trim s)
    | .int n => some (String.ofList (Json.intText n))
    | .float f => some (lib.floatText f)
    | _ => none).filter fun identity => !identity.isEmpty

def sourceEventIdentity (decoded : Json) : Option (String × String) :=
  (Event.ofObject decoded).bind fun object =>
    identityFields.findSome? fun field => (identityOf lib object field).map (field, ·)

/-- The bytes that `deterministic_event_id` hashes. -/
def hashedBytes (source sourceTopic : String) (payload : List UInt8) : List UInt8 :=
  encode source.toList ++ 0 :: (encode sourceTopic.toList ++ 0 :: payload)

def deterministicEventId (source sourceTopic : String) (payload : List UInt8) : String :=
  Sha256.hexdigest (hashedBytes source sourceTopic payload)

/-- What a delivery adds to its source and topic: its identity, or its `Uuid::new_v4()`. -/
def deliveryMaterial (deviceId : String) (decoded : Json) (uuid : List UInt8) : List UInt8 :=
  match sourceEventIdentity lib decoded with
  | some (field, identity) =>
    encode (field.toList ++ '\x00' :: (deviceId.toList ++ '\x00' :: identity.toList))
  | none => uuid

def eventIdForDelivery (source sourceTopic deviceId : String) (decoded : Json)
    (uuid : List UInt8) : String :=
  deterministicEventId source sourceTopic (deliveryMaterial lib deviceId decoded uuid)

end Identifiers

/-! ### Events -/

/-- The part of `BridgeConfig` that events depend on. -/
structure BridgeConfig where
  defaultKafkaTopic : String
  wildfiTopicPrefixes : List String

/-- `MqttMessage`, with the time at which it is handled and the next `Uuid::new_v4()`. -/
structure Delivery where
  topic : String
  payload : List UInt8
  qos : ℤ
  retain : Bool
  ingestedAt : String
  uuid : List UInt8

structure BuiltEvent where
  topic : String
  key : List UInt8
  event : Event

def payloadValue (payload : Event) (names : List String) (fallback : Json) : Json :=
  (names.findSome? payload.get?).getD fallback

section Events

variable (lib : Libraries) (config : BridgeConfig)

def topicFields (kafkaTopic deviceId timestamp ingestedAt : String) (decoded : Json) : Event :=
  let object := (Event.ofObject decoded).getD .empty
  if kafkaTopic = "raw.sensor" then
    Event.empty.insertAll [("device_id", .str deviceId), ("timestamp", .str timestamp),
      ("ingested_at", .str ingestedAt),
      ("payload", if decoded.isObj then .obj object.fields else .obj [("value", decoded)])]
  else if kafkaTopic = "raw.gps" then
    Event.empty.insertAll [("device_id", .str deviceId),
      ("timestamp", .str (pickEventTimestamp lib (.obj object.fields) timestamp)),
      ("ingested_at", .str ingestedAt),
      ("latitude", payloadValue object ["latitude", "latitude_deg", "lat"]
        (.float ⟨"0.0", by decide⟩)),
      ("longitude", payloadValue object ["longitude", "longitude_deg", "lon"]
        (.float ⟨"0.0", by decide⟩)),
      ("altitude_m", payloadValue object ["altitude_m", "altitude"] .null),
      ("speed_m_s", payloadValue object ["speed_m_s", "speed"] .null),
      ("heading_deg", payloadValue object ["heading_deg", "heading"] .null),
      ("payload", .obj object.fields)]
  else
    ((object.orInsert "device_id" (.str deviceId)).orInsert "timestamp" (.str timestamp)).insert
      "ingested_at" (.str ingestedAt)

def buildEvent (d : Delivery) : BuiltEvent :=
  let kafkaTopic := pickKafkaTopic d.topic config.defaultKafkaTopic config.wildfiTopicPrefixes
  let deviceId := deriveDeviceId d.topic config.wildfiTopicPrefixes
  let decoded := decodePayload lib d.payload
  let timestamp := pickEventTimestamp lib decoded d.ingestedAt
  let source := eventSourceForTopic d.topic config.wildfiTopicPrefixes
  let eventId := eventIdForDelivery lib source d.topic deviceId decoded d.uuid
  { topic := kafkaTopic
    key := encode deviceId.toList
    event := (topicFields lib kafkaTopic deviceId timestamp d.ingestedAt decoded).insertAll
      [("mqtt_topic", .str d.topic), ("event_id", .str eventId), ("schema_version", .str "1.0.0"),
        ("occurred_at", .str timestamp), ("qos", .int d.qos), ("retain", .bool d.retain),
        ("source", .str source)] }

end Events

end ArchiDeal.Streams.Bridge
