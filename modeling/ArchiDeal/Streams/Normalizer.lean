import ArchiDeal.Lib.Binary64
import ArchiDeal.Lib.Fields
import ArchiDeal.Lib.TreeText

/-!
# The two normalizers

`normalize_record` of `stream-normalizer/src/lib.rs` (`Rust.normalizeRecord`) and `NormalizeEvent`
of `flink/jobs/streaming_minimal.py` (`Flink.flatMap`). Both read a record of a raw topic as JSON
and produce the ten fields of a normalized event. A string is a sequence of code points, as in
Python; the strings of Rust are those without surrogates.

`serde_json` reads a float with best effort and its versions write exponents in more than one way
(`Serde`); the interpreter has a recursion limit and a Unicode database (`Interp`). What they write,
and what `int` makes of a value, is defined here. `infer_entity_id` is a parameter: it has a module
of its own.
-/

namespace ArchiDeal.Streams

open Py JsonText

/-! ### Events -/

structure NormalizedEvent where
  entityId : Str
  sourceEventId : Str
  eventTs : Str
  sourceTopic : Str
  mqttTopic : Str
  eventKind : String
  payloadB64 : Str
  qos : ℤ
  retain : Bool
  rawJson : String
  deriving DecidableEq

/-- The text of an ASCII literal. -/
def lit (s : String) : Str := Str.ofString s

def sourceTopicEventKinds : List (String × String) :=
  [("raw.sensor", "sensor"), ("raw.gps", "gps"), ("raw.image2d.meta", "image2d"),
    ("raw.image3d.meta", "image3d"), ("raw.video2d.meta", "video2d"),
    ("raw.video3d.meta", "video3d")]

def mqttEventKindPatterns : List (String × List String) :=
  [("gps", ["gps", "/gnss/"]), ("video3d", ["video3d", "/stereo-video/", "/volumetric-video/"]),
    ("video2d", ["video2d", "/video/", "/camera-stream/"]),
    ("image3d", ["image3d", "/lidar/", "/pointcloud/"]),
    ("image2d", ["image2d", "/camera/", "/image/"])]

/-- `pattern in text`. -/
def contains (text : Str) (pattern : String) : Bool :=
  text.tails.any (lit pattern).isPrefixOf

def inferEventKind (lower : Str → Str) (sourceTopic mqttTopic : Str) : String :=
  match sourceTopicEventKinds.find? fun entry => lower sourceTopic == lit entry.1 with
  | some entry => entry.2
  | none =>
    match mqttEventKindPatterns.find? fun entry => entry.2.any (contains (lower mqttTopic)) with
    | some entry => entry.1
    | none => "unknown"

/-- `str::to_ascii_lowercase` of a code point. -/
def asciiLowerPoint : CodePoint → CodePoint
  | .char c => .char c.toLower
  | .surrogate n => .surrogate n

/-! ### Number literals -/

def negative (n : NumberLit) : Bool := n.int.head? == some '-'

def signText (n : NumberLit) : List Char := if negative n then ['-'] else []

/-- The decimal number that the digits of a literal are. -/
def magnitude (n : NumberLit) : ℚ :=
  (Number.intValue (n.int ++ n.fraction.tail)).natAbs *
    10 ^ (Number.exponentValue n.exponent - n.fraction.tail.length)

/-! ### The normalizer in Rust -/

namespace Rust

/-- The digits are few enough for an exact division or multiplication of two doubles. -/
def Short (n : NumberLit) : Prop :=
  (Number.intValue (n.int ++ n.fraction.tail)).natAbs < 2 ^ 53 ∧
    (Number.exponentValue n.exponent - n.fraction.tail.length).natAbs ≤ 22

/-- How `serde_json` reads the numbers that are not integers, and how it writes them. -/
structure Serde where
  /-- The double of a literal, with best effort; `none` is a number out of range. -/
  read : NumberLit → Option Binary64
  read_short : ∀ n, Short n → read n = Binary64.ofRat (magnitude n)
  format : Format

/-- Literals are read as the nearest double, and exponents are written without sign. -/
def Serde.nearest : Serde := ⟨fun n => Binary64.ofRat (magnitude n), fun _ _ => rfl,
    ⟨-5, 16, false, 1⟩⟩

/-- The integer of a literal; a `-0` and an integer outside of `i64` and `u64` are doubles. -/
def integer (n : NumberLit) : Option ℤ :=
  if n.isInt && !(n.int.head? == some '-' && n.intValue == 0) &&
      (-2 ^ 63 ≤ n.intValue && n.intValue < 2 ^ 64) then some n.intValue
  else none

variable (serde : Serde)

/-- `serde_json`: 127 levels, and numbers that are integers or finite doubles. -/
def dialect : Dialect Unit where
  depth := 127
  constants := false
  surrogates := false
  refuse n := if (integer n).isSome || (serde.read n).isSome then none else some ()
  malformed := ()
  tooDeep := ()

def numberText (n : NumberLit) : List Char :=
  match integer n, serde.read n with
  | some i, _ => Json.intText i
  | none, some u => signText n ++ serde.format.text u
  | none, none => "null".toList

/-- A code point of a string. -/
def escape : CodePoint → Str
  | .char c => (Json.escapeChar c).map .char
  | c => [c]

def quote (s : Str) : Str := lit "\"" ++ s.flatMap escape ++ lit "\""

/-- The values that are neither arrays nor objects; no other value is ever read. -/
def atom : Tree → Str
  | .bool true => lit "true"
  | .bool false => lit "false"
  | .num n => (numberText serde n).map .char
  | .str s => quote s
  | _ => lit "null"

/-- Compact JSON. A map has its keys in the order of their bytes, which is the one of their code
points. -/
def style : Style where
  atom := atom serde
  key := quote
  comma := lit ","
  colon := lit ":"
  before k l := decide (k.map CodePoint.toNat < l.map CodePoint.toNat)

/-- `Value::to_string`. -/
def toText : Tree → Str := (style serde).write

def asI64 : Tree → Option ℤ
  | .num n => (integer n).filter fun i => i < 2 ^ 63
  | _ => none

def asBool : Tree → Option Bool
  | .bool b => some b
  | _ => none

/-- A value as `string_field` writes it. -/
def fieldText : Tree → Str
  | .str s => s
  | v => toText serde v

def stringField (record : List (Str × Tree)) (field : String) : Option Str :=
  (lookupLast record field).map (fieldText serde)

def asI32 (n : ℤ) : ℤ := n.bmod (2 ^ 32)

/-- The fields of a record. -/
def normalizeObject (infer : Str → Str) (sourceTopic : Str) (rawJson : String)
    (record : List (Str × Tree)) : NormalizedEvent :=
  let mqttTopic := (stringField serde record "mqtt_topic").getD []
  { entityId := ((stringField serde record "device_id").filter (!·.isEmpty)).getD (infer mqttTopic)
    sourceEventId := (stringField serde record "event_id").getD []
    eventTs := ((stringField serde record "timestamp").or
      (stringField serde record "ingested_at")).getD []
    sourceTopic := sourceTopic
    mqttTopic := mqttTopic
    eventKind := inferEventKind (·.map asciiLowerPoint) sourceTopic mqttTopic
    payloadB64 := (stringField serde record "payload_b64").getD []
    qos := asI32 (((lookupLast record "qos").bind asI64).getD 0)
    retain := ((lookupLast record "retain").bind asBool).getD false
    rawJson := rawJson }

def normalizeRecord (infer : Str → Str) (sourceTopic : Str) (rawJson : String) :
    Option NormalizedEvent :=
  match (dialect serde).read rawJson.toList with
  | .ok (.obj record) => some (normalizeObject serde infer sourceTopic rawJson record)
  | _ => none

end Rust

/-! ### The normalizer in Python -/

namespace Flink

/-- An exception. -/
inductive Raised
  /-- `json.JSONDecodeError`. -/
  | decode
  | recursion
  /-- The `ValueError` of an integer with too many digits. -/
  | digits
  /-- The `ValueError`, `TypeError` or `OverflowError` of `int(value)`. -/
  | int
  /-- The output does not fit its type. -/
  | encode
  deriving DecidableEq

/-- A code point of ASCII. -/
def isAscii : CodePoint → Bool
  | .char c => c.toNat < 128
  | .surrogate _ => false

/-- What `str.lower` makes of one code point. Two code points outside of ASCII have a lower case
with an ASCII letter: the Kelvin sign, and the capital `i` with a dot. -/
inductive LowersTo : CodePoint → Str → Prop
  | ascii (c : Char) : c.toNat < 128 → LowersTo (.char c) [.char c.toLower]
  | kelvin : LowersTo (.char '\u212a') [.char 'k']
  | dotted : LowersTo (.char '\u0130') [.char 'i', .char '\u0307']
  | other (c : CodePoint) (s : Str) : isAscii c = false → s ≠ [] → (∀ d ∈ s, isAscii d = false) →
      LowersTo c s

/-- The interpreter. -/
structure Interp where
  /-- How deep `json.loads` nests before it raises a `RecursionError`. -/
  depth : ℕ
  /-- `str.isprintable` of a character outside of ASCII. -/
  printable : Char → Bool
  lower : Str → Str
  lower_pieces : ∀ s, ∃ pieces, lower s = pieces.flatten ∧ List.Forall₂ LowersTo s pieces

variable (py : Interp)

/-- `json.loads`. -/
def dialect : Dialect Raised where
  depth := py.depth
  constants := true
  surrogates := true
  refuse n := if n.isInt && 4300 < (n.int.filter Text.digit).length then some .digits else none
  malformed := .decode
  tooDeep := .recursion

/-- The exponents of `repr(f)`. -/
def format : Format := ⟨-4, 16, true, 2⟩

/-- The float of a literal; `none` is an infinite one. -/
def double (n : NumberLit) : Option Binary64 := Binary64.ofRat (magnitude n)

def numberText (n : NumberLit) : List Char :=
  if n.isInt then Json.intText n.intValue
  else signText n ++ ((double n).map format.text).getD "inf".toList

/-- The quote of `repr(s)`. -/
def quoteMark (s : Str) : Char :=
  if s.contains (.char '\x27') && !s.contains (.char '"') then '"' else '\x27'

/-- The last `w` hexadecimal digits. -/
def hexText : ℕ → ℕ → List Char
  | 0, _ => []
  | w + 1, n => hexText w (n / 16) ++ [Json.hexChar (n % 16)]

/-- A code point of `repr(s)`. -/
def escape (mark : Char) : CodePoint → List Char
  | .char c =>
    if c = mark ∨ c = '\\' then ['\\', c]
    else if c = '\t' then ['\\', 't']
    else if c = '\n' then ['\\', 'n']
    else if c = '\r' then ['\\', 'r']
    else if c.toNat < 32 ∨ c.toNat = 127 then '\\' :: 'x' :: hexText 2 c.toNat
    else if c.toNat < 127 ∨ py.printable c = true then [c]
    else if c.toNat < 0x100 then '\\' :: 'x' :: hexText 2 c.toNat
    else if c.toNat < 0x10000 then '\\' :: 'u' :: hexText 4 c.toNat
    else '\\' :: 'U' :: hexText 8 c.toNat
  | .surrogate n => '\\' :: 'u' :: hexText 4 (0xd800 + n)

/-- `repr(s)`. -/
def quote (s : Str) : List Char :=
  quoteMark s :: (s.flatMap (escape py (quoteMark s)) ++ [quoteMark s])

/-- `repr` of the values that are neither lists nor dictionaries. -/
def atom : Tree → List Char
  | .bool true => "True".toList
  | .bool false => "False".toList
  | .num n => numberText n
  | .nan => "nan".toList
  | .infinity false => "inf".toList
  | .infinity true => "-inf".toList
  | .str s => quote py s
  | _ => "None".toList

/-- `repr(value)`. A dictionary keeps the place of a key that is repeated. -/
def style : Style where
  atom v := (atom py v).map .char
  key k := (quote py k).map .char
  comma := lit ", "
  colon := lit ": "
  before _ _ := false

def str : Tree → Str
  | .str s => s
  | v => (style py).write v

/-- `bool(value)`. -/
def truthy : Tree → Bool
  | .null => false
  | .bool b => b
  | .num n => if n.isInt then n.intValue != 0 else !(double n).any (·.units == 0)
  | .nan => true
  | .infinity _ => true
  | .str s => !s.isEmpty
  | .arr xs => !xs.isEmpty
  | .obj kvs => !kvs.isEmpty

/-- `int(value)`; `none` is a `ValueError`, a `TypeError` or an `OverflowError`. -/
def int : Tree → Option ℤ
  | .bool b => some (if b then 1 else 0)
  | .num n =>
    if n.isInt then some n.intValue
    else (double n).map fun u => if negative n then -u.trunc else u.trunc
  | .str s => s.text?.bind Fields.pyInt
  | _ => none

def strField (record : List (Str × Tree)) (field : String) : Str :=
  ((lookupLast record field).map (str py)).getD []

/-- `record.get(field)`, if it is true. -/
def given (record : List (Str × Tree)) (field : String) : Option Tree :=
  (lookupLast record field).filter truthy

/-- `int(record.get("qos", 0) or 0)`. -/
def qos (record : List (Str × Tree)) : Except Raised ℤ :=
  match given record "qos" with
  | none => .ok 0
  | some v =>
    match int v with
    | none => .error .int
    | some n => .ok n

/-- The fields of a record. -/
def normalizeObject (infer : Str → Str) (sourceTopic : Str) (rawJson : String)
    (record : List (Str × Tree)) : Except Raised NormalizedEvent := do
  let mqttTopic := strField py record "mqtt_topic"
  let entityId := ((given record "device_id").map (str py)).getD (infer mqttTopic)
  let eventTs := (((given record "timestamp").or (given record "ingested_at")).map
    (str py)).getD []
  let eventKind := inferEventKind py.lower sourceTopic mqttTopic
  let payloadB64 := strField py record "payload_b64"
  let qos ← qos record
  pure
    { entityId := entityId
      sourceEventId := strField py record "event_id"
      eventTs := eventTs
      sourceTopic := sourceTopic
      mqttTopic := mqttTopic
      eventKind := eventKind
      payloadB64 := payloadB64
      qos := qos
      retain := (given record "retain").isSome
      rawJson := rawJson }

def parseJsonRecord (rawValue : String) : Except Raised (Option (List (Str × Tree))) :=
  match (dialect py).read rawValue.toList with
  | .ok (.obj record) => .ok (some record)
  | .ok _ => .ok none
  | .error .decode => .ok none
  | .error e => .error e

def flatMap (infer : Str → Str) (sourceTopic : Str) (rawValue : String) :
    Except Raised (List NormalizedEvent) := do
  match ← parseJsonRecord py rawValue with
  | none => pure []
  | some record => do
    let row ← normalizeObject py infer sourceTopic rawValue record
    pure [row]

end Flink

end ArchiDeal.Streams
