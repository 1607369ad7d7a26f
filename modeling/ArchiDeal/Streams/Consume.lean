import ArchiDeal.Lib.Transition
import ArchiDeal.Streams.Latest
import ArchiDeal.Streams.Topics

/-!
# The consume loop of the normalizer

`run` of `stream-normalizer/src/main.rs`, with the Kafka cluster around it. Processes of one
consumer group start, get partitions, and stop at any point. A process takes a record, sends what it
makes of it and commits the offset, one awaited call after the other; a call that takes effect may
still be the last thing that the process does. A process that starts knows nothing of the timestamps
that an earlier one had accepted.

The state also has a history that the program does not see: the commits, with whether the event was
accepted as latest by the process that committed it, the records that were ever accepted, and how
many records of a partition `auto.offset.reset` has skipped.
-/

namespace ArchiDeal.Streams.Consume

open Py Text Transition

/-! ### Records -/

/-- A partition of a source topic. -/
structure Partition where
  topic : String
  number : ℕ
  deriving DecidableEq

/-- The place of a source record. -/
structure Position where
  partition : Partition
  offset : ℕ
  deriving DecidableEq

/-- A record of an output topic. The key and the payload of the first two are those of the event. -/
inductive Output
  | features (event : NormalizedEvent)
  | state (event : NormalizedEvent)
  | dlq (letter : Json)
  deriving DecidableEq

/-- What a payload is: an event, or a reason to refuse it and what the dead letter shows of it. -/
inductive Outcome
  | event (event : NormalizedEvent)
  | refused (error : String) (rawEvent : Json)
  deriving DecidableEq

inductive OffsetReset
  | earliest
  | latest
  deriving DecidableEq

/-- What the loop depends on. -/
structure Config where
  serde : Rust.Serde
  stateOutputEnabled : Bool
  autoOffsetReset : OffsetReset

variable (config : Config)

/-- `infer_entity_id` on a text of Rust. -/
def inferEntity (topic : Str) : Str := lit (inferEntityId (topic.text?.getD ""))

/-- How the loop sorts a payload. -/
def outcome (sourceTopic : String) (payload : List UInt8) : Outcome :=
  match utf8 payload with
  | none => .refused "payload is not valid UTF-8" (.obj [("payload_encoding", .str "non-utf8")])
  | some text =>
    match Rust.normalizeRecord config.serde inferEntity (lit sourceTopic) text with
    | none => .refused "record must be a JSON object" (.obj [("raw_payload", .str text)])
    | some event => .event event

/-- `send_dlq_event` and `invalid_record_dlq_json`, at the time `now`. -/
def dlqEvent (now sourceTopic error : String) (rawEvent : Json) : Json :=
  .obj [("timestamp", .str now), ("source", .str "stream-normalizer"),
    ("intended_topic", .str sourceTopic), ("source_topic", .str sourceTopic),
    ("device_id", .str "unknown"), ("errors", .arr [.str error]), ("raw_event", rawEvent)]

/-! ### Processes -/

/-- The call that a process awaits. A commit remembers whether the event was accepted as latest. -/
inductive Task
  | sendDlq (letter : Json)
  | sendFeatures (event : NormalizedEvent)
  | sendState (event : NormalizedEvent)
  | commit (accepted : Bool)

/-- A process: its partitions with the next offset of each, its `LatestState`, and the record that
it works on. -/
structure Process where
  positions : Partition → Option ℕ
  latest : Str → Option Str
  task : Option (Position × Task)

/-- The first call for a record. -/
def firstTask (now sourceTopic : String) : Outcome → Task
  | .event event => .sendFeatures event
  | .refused error rawEvent => .sendDlq (dlqEvent now sourceTopic error rawEvent)

/-- What follows a call that succeeded. -/
def Process.resume (process : Process) (pos : Position) : Task → Process
  | .sendDlq _ => { process with task := some (pos, .commit false) }
  | .sendFeatures event =>
    if config.stateOutputEnabled then
      let (accepted, latest) := Rust.accepts process.latest event
      { process with
        latest := latest
        task := some (pos, if accepted then .sendState event else .commit false) }
    else { process with task := some (pos, .commit false) }
  | .sendState _ => { process with task := some (pos, .commit true) }
  | .commit _ => { process with task := none }

/-! ### The system -/

/-- The source partitions, the offsets and the outputs in Kafka, the processes, and the history. -/
structure State where
  log : Partition → List (Option (List UInt8))
  committed : Partition → Option ℕ
  durable : List (Position × Output)
  processes : ℕ → Option Process
  commits : List (Position × Bool)
  accepted : List Position
  skipped : Partition → ℕ

/-- Nothing has been read from the source partitions. -/
def State.initial (log : Partition → List (Option (List UInt8))) : State :=
  ⟨log, fun _ => none, [], fun _ => none, [], [], fun _ => 0⟩

/-- What a call does to the cluster. -/
def State.effect (s : State) (pos : Position) : Task → State
  | .sendDlq letter => { s with durable := s.durable ++ [(pos, .dlq letter)] }
  | .sendFeatures event => { s with durable := s.durable ++ [(pos, .features event)] }
  | .sendState event => { s with durable := s.durable ++ [(pos, .state event)] }
  | .commit accepted =>
    { s with
      committed := Function.update s.committed pos.partition (some (pos.offset + 1))
      commits := s.commits ++ [(pos, accepted)] }

def State.setProcess (s : State) (w : ℕ) (process : Option Process) : State :=
  { s with processes := Function.update s.processes w process }

/-- The offset from which a partition is read. -/
def State.start (s : State) (p : Partition) : ℕ :=
  match s.committed p, config.autoOffsetReset with
  | some offset, _ => offset
  | none, .earliest => 0
  | none, .latest => (s.log p).length

/-- What can happen. -/
inductive Action
  /-- A producer appends a record, which may have no payload. -/
  | append (p : Partition) (payload : Option (List UInt8))
  | start (w : ℕ)
  /-- A crash, an error of Kafka, or a shutdown. -/
  | stop (w : ℕ)
  | assign (w : ℕ) (p : Partition)
  | revoke (w : ℕ) (p : Partition)
  /-- `consumer.recv()` returns a record, at the time `now`. -/
  | recv (w : ℕ) (p : Partition) (now : String)
  /-- The awaited call succeeds. -/
  | succeed (w : ℕ)
  /-- The awaited call takes effect, and the process ends without learning of it. -/
  | succeedAndStop (w : ℕ)

def step (s : State) : Action → Option State
  | .append p payload =>
    some { s with log := Function.update s.log p (s.log p ++ [payload]) }
  | .start w =>
    if (s.processes w).isNone then some (s.setProcess w (some ⟨fun _ => none, fun _ => none, none⟩))
    else none
  | .stop w => some (s.setProcess w none)
  | .assign w p =>
    (s.processes w).map fun process =>
      { s.setProcess w (some { process with
          positions := Function.update process.positions p (some (s.start config p)) }) with
        skipped := if (s.committed p).isNone then
            Function.update s.skipped p (max (s.skipped p) (s.start config p))
          else s.skipped }
  | .revoke w p =>
    (s.processes w).map fun process =>
      s.setProcess w (some { process with positions := Function.update process.positions p none })
  | .recv w p now => do
    let process ← s.processes w
    if process.task.isSome then none
    else do
      let offset ← process.positions p
      let payload ← (s.log p)[offset]?
      some (s.setProcess w (some { process with
        positions := Function.update process.positions p (some (offset + 1))
        -- a record without a payload is passed over without a commit
        task := payload.map fun bytes =>
          (⟨p, offset⟩, firstTask now p.topic (outcome config p.topic bytes)) }))
  | .succeed w => do
    let process ← s.processes w
    let (pos, task) ← process.task
    let resumed := process.resume config pos task
    let s' := (s.effect pos task).setProcess w (some resumed)
    some { s' with
      accepted := match resumed.task with
        | some (_, .sendState _) => s.accepted ++ [pos]
        | _ => s.accepted }
  | .succeedAndStop w => do
    let process ← s.processes w
    let (pos, task) ← process.task
    some ((s.effect pos task).setProcess w none)

end ArchiDeal.Streams.Consume
