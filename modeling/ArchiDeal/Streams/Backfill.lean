import ArchiDeal.Streams.Bridge

/-!
# The backfill of media objects

`pipelines/media_backfill.py`: a run lists the objects of a bucket, and sends a record for each
object that was last modified in its window, or a dead letter if the contract of the topic refuses
the record.

* `resolveWindow`, `iterObjectsBetween`, `buildRecord`, `main`: the script;
* `publish_spec`: what the loop counts and what becomes durable;
* `count_windows`: consecutive windows have each object of their range once;
* `backfill_publishes_iff`: runs that exit without an error have published what they report exactly
  if each of their sends stores its record once. The script discards the futures, `flush` does not
  report them, and the producer retries without idempotence.

Instants are microseconds in UTC.
-/

namespace ArchiDeal.Streams.Backfill

open Text Events

/-! ### The script -/

inductive MediaKind
  | image2d
  | image3d
  | video2d
  | video3d
  deriving DecidableEq

def MediaKind.name : MediaKind → String
  | .image2d => "image2d"
  | .image3d => "image3d"
  | .video2d => "video2d"
  | .video3d => "video3d"

def topicByMediaKind : MediaKind → String
  | .image2d => "raw.image2d.meta"
  | .image3d => "raw.image3d.meta"
  | .video2d => "raw.video2d.meta"
  | .video3d => "raw.video3d.meta"

def dlqTopic : String := "dlq.events"

/-- What the script takes from the libraries of Python. -/
structure Libraries where
  /-- `datetime.fromisoformat`: the local time and the offset of the zone. -/
  fromisoformat : String → Option (ℤ × Option ℤ)
  isoformat : ℤ → String
  /-- `mimetypes.guess_type`, without the encoding. -/
  guessType : String → Option String
  /-- `Path(key).suffix`. -/
  suffix : String → String
  lower : String → String
  /-- `str(v)` of a JSON value. -/
  str : Json → String
  /-- The value of a float. -/
  double : FloatLit → ℚ

/-- The options of the command line that choose the window. -/
structure Args where
  sinceMinutes : Option ℤ
  windowStart : Option String
  windowEnd : Option String

/-- The options that all runs of a job share. -/
structure Job where
  bucket : String
  mediaKind : MediaKind

/-- An entry of a listing. -/
structure Item where
  key : String
  size : ℤ
  lastModified : ℤ

/-- The pages of a listing; a page may have no `Contents`. A bucket has an object once. -/
structure Listing where
  pages : List (Option (List Item))
  nodup : ((pages.flatMap fun page => page.getD []).map Item.key).Nodup

/-- The entries of all pages. -/
def Listing.items (listing : Listing) : List Item := listing.pages.flatMap fun page => page.getD []

/-- What `iter_objects_between` yields. -/
structure MediaObject where
  bucket : String
  objectKey : String
  sizeBytes : ℤ
  timestamp : String
  objectUri : String

/-- A record of a Kafka topic. -/
structure Record where
  topic : String
  key : List UInt8
  value : Json

/-- What becomes of a call of `producer.send`. -/
inductive SendFate
  /-- The call raises an exception, and nothing is stored. -/
  | raises
  /-- The future succeeds; a retry may have stored the record more than once. -/
  | stored (again : ℕ)
  /-- The future fails; the record may have been stored although no answer came. -/
  | failed (copies : ℕ)
  deriving DecidableEq

/-- How often the record is stored. -/
def SendFate.copies : SendFate → ℕ
  | .raises => 0
  | .stored again => again + 1
  | .failed copies => copies

/-- A run: its options and what its surroundings do. -/
structure Run where
  args : Args
  /-- `datetime.now(UTC)`. -/
  now : ℤ
  /-- `now_iso()` for the record of each object. -/
  ingestedAt : ℕ → String
  /-- `now_iso()` for the dead letter of each object. -/
  deadLetterAt : ℕ → String
  sends : ℕ → SendFate
  flushTimesOut : Bool

/-- How a run fails. -/
inductive Raised
  | valueError (message : String)
  | sendError
  | flushTimeout

/-- What a run prints, apart from its options. -/
structure Report where
  windowStart : String
  windowEnd : String
  topic : String
  recordsSent : ℕ
  recordsInvalid : ℕ

section Script

variable (lib : Libraries)

def parseIso8601 (value : String) : Option ℤ :=
  let value := if value.toList.getLast? = some 'Z'
    then String.ofList (value.toList.dropLast ++ "+00:00".toList) else value
  (lib.fromisoformat value).map fun parsed => parsed.1 - parsed.2.getD 0

def guessFormat (objectKey : String) : String :=
  let suffix := String.ofList ((lib.lower (lib.suffix objectKey)).toList.dropWhile (· = '.'))
  if suffix = "" then "bin" else suffix

/-- `resolve_window`, at the time `now`. -/
def resolveWindow (now : ℤ) (args : Args) : Except Raised (ℤ × ℤ) :=
  let start := args.windowStart.filter (· != "")
  let stop := args.windowEnd.filter (· != "")
  match start, stop with
  | some start, some stop =>
    match parseIso8601 lib start, parseIso8601 lib stop with
    | some start, some stop =>
      if stop ≤ start then .error (.valueError "--window-start must be earlier than --window-end.")
      else .ok (start, stop)
    | _, _ => .error (.valueError "Invalid isoformat string")
  | none, none =>
    match args.sinceMinutes with
    | none => .error (.valueError "Use either --window-start/--window-end or --since-minutes.")
    | some minutes =>
      if minutes ≤ 0 then .error (.valueError "--since-minutes must be a positive integer.")
      else .ok (now - minutes * 60000000, now)
  | _, _ => .error (.valueError "Both --window-start and --window-end must be set together.")

/-- `window_start <= last_modified < window_end`. -/
def inWindow (window : ℤ × ℤ) (item : Item) : Bool :=
  decide (window.1 ≤ item.lastModified) && decide (item.lastModified < window.2)

def mediaObject (bucket : String) (item : Item) : MediaObject where
  bucket := bucket
  objectKey := item.key
  sizeBytes := item.size
  timestamp := lib.isoformat item.lastModified
  objectUri := "s3://" ++ bucket ++ "/" ++ item.key

def iterObjectsBetween (listing : Listing) (bucket : String) (window : ℤ × ℤ) : List MediaObject :=
  listing.pages.flatMap fun page =>
    ((page.getD []).filter (inWindow window)).map (mediaObject lib bucket)

def mediaDefaults : MediaKind → List (String × Json)
  | .image2d => [("camera_id", .str "unknown")]
  | .image3d => [("sensor_id", .str "unknown"), ("capture_type", .str "unknown")]
  | .video2d => [("camera_id", .str "unknown")]
  | .video3d => [("rig_id", .str "unknown"), ("representation", .str "unknown")]

/-- `build_record`, at the time `now`. -/
def buildRecord (now : String) (obj : MediaObject) (kind : MediaKind) : Event :=
  (Event.empty.insertAll
    [("device_id", .str "backfill"), ("timestamp", .str obj.timestamp), ("ingested_at", .str now),
      ("bucket", .str obj.bucket), ("object_key", .str obj.objectKey),
      ("object_uri", .str obj.objectUri), ("format", .str (guessFormat lib obj.objectKey)),
      ("content_type", .str ((lib.guessType obj.objectKey).getD "application/octet-stream")),
      ("size_bytes", .int obj.sizeBytes),
      ("tags", .obj [("source", .str "airflow-backfill"),
        ("media_kind", .str kind.name)])]).insertAll
    (mediaDefaults kind)

/-- `build_dlq_event` of `dealiot_contracts/events.py`, at the time `now`. -/
def buildDlqEvent (now source intendedTopic : String) (errors : List String) (rawEvent : Event) :
    Json :=
  .obj [("timestamp", .str now), ("source", .str source), ("intended_topic", .str intendedTopic),
    ("source_topic", (((rawEvent.get? "source_topic").filter Json.truthy).or
      ((rawEvent.get? "mqtt_topic").filter Json.truthy)).getD
        ((rawEvent.get? "object_uri").getD (.str ""))),
    ("device_id", .str (lib.str ((rawEvent.get? "device_id").getD (.str "unknown")))),
    ("errors", .arr (errors.map .str)), ("raw_event", .obj rawEvent.fields)]

variable (job : Job) (run : Run)

/-- The record that is sent for the object with an index, and whether it is valid. -/
def outgoing (index : ℕ) (obj : MediaObject) : Bool × Record :=
  let kafkaTopic := topicByMediaKind job.mediaKind
  let record := buildRecord lib (run.ingestedAt index) obj job.mediaKind
  let key := encode obj.objectKey.toList
  match Python.validateEvent lib.double kafkaTopic record with
  | [] => (true, ⟨kafkaTopic, key, .obj record.fields⟩)
  | errors =>
    let rawEvent := record.insert "source_topic"
      (.str ("s3://" ++ obj.bucket ++ "/" ++ obj.objectKey))
    (false, ⟨dlqTopic, key, buildDlqEvent lib (run.deadLetterAt index) "airflow-backfill" kafkaTopic
      errors rawEvent⟩)

/-- The counters of the loop, and the records that become durable. -/
structure Progress where
  sent : ℕ
  invalid : ℕ
  durable : List Record

/-- One round of the loop. The future of the send is discarded. -/
def Progress.after (p : Progress) (index : ℕ) (obj : MediaObject) : Progress where
  sent := if (outgoing lib job run index obj).1 then p.sent + 1 else p.sent
  invalid := if (outgoing lib job run index obj).1 then p.invalid else p.invalid + 1
  durable := p.durable ++
    List.replicate (run.sends index).copies (outgoing lib job run index obj).2

/-- The loop of `main`, and whether it ends without an exception. -/
def publish (index : ℕ) (p : Progress) : List MediaObject → Progress × Bool
  | [] => (p, true)
  | obj :: rest =>
    if run.sends index = .raises then (p, false)
    else publish (index + 1) (p.after lib job run index obj) rest

variable (listing : Listing)

/-- `main`: its report, and the records that become durable. -/
def main : Except Raised Report × List Record :=
  match resolveWindow lib run.now run.args with
  | .error e => (.error e, [])
  | .ok window =>
    let objects := iterObjectsBetween lib listing job.bucket window
    let loop := publish lib job run 0 ⟨0, 0, []⟩ objects
    if !loop.2 then (.error .sendError, loop.1.durable)
    else if run.flushTimesOut then (.error .flushTimeout, loop.1.durable)
    else
      (.ok
        { windowStart := lib.isoformat window.1
          windowEnd := lib.isoformat window.2
          topic := topicByMediaKind job.mediaKind
          recordsSent := loop.1.sent
          recordsInvalid := loop.1.invalid },
        loop.1.durable)

end Script

/-! ### The loop -/

variable {lib : Libraries} {job : Job} {run : Run} {listing : Listing} {p : Progress}

/-- The records that the sends for the objects store. -/
def stored (lib : Libraries) (job : Job) (run : Run) (index : ℕ) : List MediaObject → List Record
  | [] => []
  | obj :: rest =>
    List.replicate (run.sends index).copies (outgoing lib job run index obj).2 ++
      stored lib job run (index + 1) rest

/-- The key of each object, and how often its send stores the record. -/
def sendsOf (run : Run) (index : ℕ) (objects : List MediaObject) : List (String × ℕ) :=
  (objects.zipIdx index).map fun p => (p.1.objectKey, (run.sends p.2).copies)

theorem publish_snd {index : ℕ} {objects : List MediaObject} :
    (publish lib job run index p objects).2 = true ↔
      ∀ i < objects.length, run.sends (index + i) ≠ .raises := by
  induction objects generalizing index p with
  | nil => simp [publish]
  | cons obj rest ih =>
    rw [publish, List.length_cons, Nat.forall_lt_succ_left]
    simp only [Nat.add_zero, ← Nat.add_assoc, Nat.add_right_comm index _ 1]
    split_ifs with h
    · simp [h]
    · rw [ih, and_iff_right h]

/-- **What the loop counts and what becomes durable.** -/
theorem publish_spec {index : ℕ} {objects : List MediaObject}
    (h : (publish lib job run index p objects).2 = true) :
    (publish lib job run index p objects).1.sent + (publish lib job run index p objects).1.invalid =
        p.sent + p.invalid + objects.length ∧
      (publish lib job run index p objects).1.durable =
        p.durable ++ stored lib job run index objects := by
  induction objects generalizing index p with
  | nil => simp [publish, stored]
  | cons obj rest ih =>
    rw [publish] at h ⊢
    split_ifs at h ⊢ with hraises
    obtain ⟨hcount, hdurable⟩ := ih h
    rw [hcount, hdurable, stored]
    constructor
    · simp only [Progress.after, List.length_cons]
      split_ifs <;> omega
    · rw [Progress.after, List.append_assoc]

theorem length_stored {index : ℕ} {objects : List MediaObject} :
    (stored lib job run index objects).length =
      ((sendsOf run index objects).map Prod.snd).sum := by
  induction objects generalizing index with
  | nil => rfl
  | cons obj rest ih => simp [stored, sendsOf, ih]

/-- The stored records of the object with a key, if the predicate tells them from the other ones. -/
theorem countP_stored {index : ℕ} {objects : List MediaObject} {key : String} {P : Record → Bool}
    (hP : ∀ p ∈ objects.zipIdx index,
      P (outgoing lib job run p.2 p.1).2 = decide (p.1.objectKey = key)) :
    (stored lib job run index objects).countP P =
      (((sendsOf run index objects).filter fun p => p.1 = key).map Prod.snd).sum := by
  induction objects generalizing index with
  | nil => rfl
  | cons obj rest ih =>
    rw [List.zipIdx_cons, List.forall_mem_cons] at hP
    rw [stored, List.countP_append, List.countP_replicate, ih hP.2, hP.1]
    simp only [sendsOf, List.zipIdx_cons, List.map_cons, List.filter_cons, decide_eq_true_eq]
    split_ifs <;> simp

theorem sum_filter_eq_one {entries : List (String × ℕ)} {key : String}
    (h : (entries.map Prod.fst).count key = 1) :
    ((entries.filter fun p => p.1 = key).map Prod.snd).sum = 1 ↔
      ∀ p ∈ entries, p.1 = key → p.2 = 1 := by
  rw [List.count, List.countP_map, List.countP_eq_length_filter] at h
  obtain ⟨entry, hentry⟩ := List.length_eq_one_iff.1 h
  have hfilter : (entries.filter fun p => p.1 = key) = [entry] := hentry
  have hmem (p) : p ∈ entries ∧ p.1 = key ↔ p = entry := by
    rw [← List.mem_singleton (a := p), ← hfilter, List.mem_filter, decide_eq_true_eq]
  rw [hfilter, List.map_singleton, List.sum_singleton]
  refine ⟨fun hone p hp hkey => ?_, fun hall => ?_⟩
  · rw [(hmem p).1 ⟨hp, hkey⟩, hone]
  · obtain ⟨hp, hkey⟩ := (hmem entry).2 rfl
    exact hall entry hp hkey

/-! ### Windows -/

theorem resolveWindow_lt {now : ℤ} {args : Args} {window : ℤ × ℤ}
    (h : resolveWindow lib now args = .ok window) : window.1 < window.2 := by
  simp only [resolveWindow] at h
  split at h
  · split at h
    · split at h
      · cases h
      · obtain rfl := Except.ok.inj h
        exact not_le.1 ‹¬ _›
    · cases h
  · split at h
    · cases h
    · split at h
      · cases h
      · obtain rfl := Except.ok.inj h
        simp only
        omega
  · cases h

/-- The runs have consecutive windows from `lo` to `hi`. -/
def Consecutive (lib : Libraries) : List Run → ℤ → ℤ → Prop
  | [], lo, hi => lo = hi
  | run :: runs, lo, hi =>
    ∃ mid, resolveWindow lib run.now run.args = .ok (lo, mid) ∧ Consecutive lib runs mid hi

theorem Consecutive.le {runs : List Run} {lo hi : ℤ} (h : Consecutive lib runs lo hi) :
    lo ≤ hi := by
  induction runs generalizing lo with
  | nil => exact le_of_eq h
  | cons run runs ih =>
    obtain ⟨mid, hwindow, hrest⟩ := h
    exact (resolveWindow_lt hwindow).le.trans (ih hrest)

theorem Consecutive.resolves {runs : List Run} {lo hi : ℤ} (h : Consecutive lib runs lo hi) :
    ∀ run ∈ runs, ∃ window, resolveWindow lib run.now run.args = .ok window := by
  induction runs generalizing lo with
  | nil => nofun
  | cons run runs ih =>
    obtain ⟨mid, hwindow, hrest⟩ := h
    exact List.forall_mem_cons.2 ⟨⟨_, hwindow⟩, ih hrest⟩

/-- The objects that a run sends records for. -/
def windowObjects (lib : Libraries) (job : Job) (listing : Listing) (run : Run) :
    List MediaObject :=
  match resolveWindow lib run.now run.args with
  | .ok window => iterObjectsBetween lib listing job.bucket window
  | .error _ => []

theorem keys_iterObjectsBetween (window : ℤ × ℤ) :
    (iterObjectsBetween lib listing job.bucket window).map (·.objectKey) =
      (listing.items.filter (inWindow window)).map Item.key := by
  simp only [iterObjectsBetween, Listing.items, List.map_flatMap, List.filter_flatMap, List.map_map]
  rfl

/-- A window has an object once, if it was modified in the window. -/
theorem count_window (window : ℤ × ℤ) {item : Item} (hitem : item ∈ listing.items) :
    ((iterObjectsBetween lib listing job.bucket window).map (·.objectKey)).count item.key =
      if inWindow window item then 1 else 0 := by
  have hnodup : ((listing.items.filter (inWindow window)).map Item.key).Nodup :=
    listing.nodup.sublist (List.filter_sublist.map _)
  rw [keys_iterObjectsBetween, hnodup.count]
  refine if_congr ?_ rfl rfl
  rw [List.mem_map]
  constructor
  · rintro ⟨other, hother, hkey⟩
    rw [List.mem_filter] at hother
    rw [← List.inj_on_of_nodup_map listing.nodup hother.1 hitem hkey]
    exact hother.2
  · exact fun h => ⟨item, List.mem_filter.2 ⟨hitem, h⟩, rfl⟩

/-- **Consecutive windows have each object of their range once.** -/
theorem count_windows {runs : List Run} {lo hi : ℤ} (h : Consecutive lib runs lo hi) {item : Item}
    (hitem : item ∈ listing.items) :
    (runs.flatMap fun run => (windowObjects lib job listing run).map (·.objectKey)).count item.key =
      if inWindow (lo, hi) item then 1 else 0 := by
  induction runs generalizing lo with
  | nil =>
    obtain rfl : lo = hi := h
    have hnot : inWindow (lo, lo) item = false := by simp [inWindow]
    rw [hnot]
    rfl
  | cons run runs ih =>
    obtain ⟨mid, hwindow, hrest⟩ := h
    have hlt := resolveWindow_lt hwindow
    have hle := hrest.le
    rw [List.flatMap_cons, List.count_append, ih hrest, windowObjects, hwindow]
    simp only [count_window (lo, mid) hitem, inWindow, Bool.and_eq_true, decide_eq_true_eq] at hlt ⊢
    split_ifs <;> omega

/-! ### Runs -/

/-- No call of a run raises an exception: neither a send nor `flush`. -/
def Uninterrupted (lib : Libraries) (job : Job) (listing : Listing) (run : Run) : Prop :=
  (∀ i < (windowObjects lib job listing run).length, run.sends i ≠ .raises) ∧
    run.flushTimesOut = false

/-- Each send of a run stores its record once. -/
def StoresOnce (lib : Libraries) (job : Job) (listing : Listing) (run : Run) : Prop :=
  ∀ i < (windowObjects lib job listing run).length, (run.sends i).copies = 1

theorem exits_iff {window : ℤ × ℤ} (h : resolveWindow lib run.now run.args = .ok window) :
    (∃ report, (main lib job run listing).1 = .ok report) ↔ Uninterrupted lib job listing run := by
  have hloop : (publish lib job run 0 ⟨0, 0, []⟩
      (iterObjectsBetween lib listing job.bucket window)).2 = true ↔ _ := publish_snd
  simp only [Nat.zero_add] at hloop
  simp only [main, Uninterrupted, windowObjects, h, ← hloop]
  split_ifs <;> simp_all

theorem main_spec {window : ℤ × ℤ} (h : resolveWindow lib run.now run.args = .ok window)
    (hrun : Uninterrupted lib job listing run) :
    (main lib job run listing).2 = stored lib job run 0 (windowObjects lib job listing run) ∧
      ∀ report, (main lib job run listing).1 = .ok report →
        report.recordsSent + report.recordsInvalid =
          (windowObjects lib job listing run).length := by
  obtain ⟨hraises, hflush⟩ := hrun
  simp only [windowObjects, h] at hraises ⊢
  have hloop : (publish lib job run 0 ⟨0, 0, []⟩
      (iterObjectsBetween lib listing job.bucket window)).2 = true :=
    publish_snd.2 (by simpa using hraises)
  obtain ⟨hcount, hdurable⟩ := publish_spec hloop
  simp only [main, h, hloop, hflush]
  refine ⟨by simpa using hdurable, ?_⟩
  rintro report ⟨⟩
  simpa using hcount

/-- The record is the one that the script makes of the object with an index: the event of
`build_record` if the contract accepts it, or its dead letter. -/
def isRecordOf (lib : Libraries) (job : Job) (run : Run) (index : ℕ) (obj : MediaObject)
    (record : Record) : Bool :=
  let topic := topicByMediaKind job.mediaKind
  let event := buildRecord lib (run.ingestedAt index) obj job.mediaKind
  let errors := Python.validateEvent lib.double topic event
  record.key == encode obj.objectKey.toList &&
    if errors = [] then record.topic == topic && record.value == .obj event.fields
    else record.topic == dlqTopic && record.value ==
      buildDlqEvent lib (run.deadLetterAt index) "airflow-backfill" topic errors
        (event.insert "source_topic" (.str ("s3://" ++ obj.bucket ++ "/" ++ obj.objectKey)))

/-- The run produced the record from the entry of the listing. -/
def isProducedFrom (lib : Libraries) (job : Job) (listing : Listing) (run : Run) (item : Item)
    (record : Record) : Bool :=
  (windowObjects lib job listing run).zipIdx.any fun p =>
    p.1.objectKey == item.key && isRecordOf lib job run p.2 p.1 record

/-- The durable records that the runs produced from an entry of the listing. -/
def copies (lib : Libraries) (job : Job) (listing : Listing) (runs : List Run) (item : Item) : ℕ :=
  (runs.map fun run =>
    (main lib job run listing).2.countP (isProducedFrom lib job listing run item)).sum

theorem isRecordOf_outgoing (index : ℕ) (obj : MediaObject) :
    isRecordOf lib job run index obj (outgoing lib job run index obj).2 = true := by
  simp only [isRecordOf, outgoing]
  split <;> simp_all

theorem key_of_isRecordOf {index : ℕ} {obj : MediaObject} {record : Record}
    (h : isRecordOf lib job run index obj record = true) :
    record.key = encode obj.objectKey.toList :=
  beq_iff_eq.1 (Bool.and_eq_true_iff.1 h).1

/-- The key of a record tells the object that it was produced from. -/
theorem isProducedFrom_outgoing {item : Item} {p : MediaObject × ℕ}
    (hp : p ∈ (windowObjects lib job listing run).zipIdx) :
    isProducedFrom lib job listing run item (outgoing lib job run p.2 p.1).2 =
      decide (p.1.objectKey = item.key) := by
  have hself : isRecordOf lib job run p.2 p.1 _ = true := isRecordOf_outgoing p.2 p.1
  rw [Bool.eq_iff_iff, decide_eq_true_eq, isProducedFrom, List.any_eq_true]
  constructor
  · rintro ⟨q, -, hq⟩
    rw [Bool.and_eq_true_iff, beq_iff_eq] at hq
    have hkey := (key_of_isRecordOf hself).symm.trans (key_of_isRecordOf hq.2)
    exact (String.toList_inj.1 (encode_injective hkey)).trans hq.1
  · exact fun hkey => ⟨p, hp, by rw [hself, hkey]; simp⟩

def allSends (lib : Libraries) (job : Job) (listing : Listing) (runs : List Run) :
    List (String × ℕ) :=
  runs.flatMap fun run => sendsOf run 0 (windowObjects lib job listing run)

theorem keys_allSends (runs : List Run) :
    (allSends lib job listing runs).map Prod.fst =
      runs.flatMap fun run => (windowObjects lib job listing run).map (·.objectKey) := by
  rw [allSends, List.map_flatMap]
  refine List.flatMap_congr fun run _ => ?_
  conv_rhs => rw [← List.zipIdx_map_fst 0 (windowObjects lib job listing run), List.map_map]
  rw [sendsOf, List.map_map]
  rfl

/-- Consecutive windows have no object that is outside of their range. -/
theorem exists_item_of_mem_allSends {runs : List Run} {lo hi : ℤ} (h : Consecutive lib runs lo hi)
    {p : String × ℕ} (hp : p ∈ allSends lib job listing runs) :
    ∃ item ∈ listing.items, lo ≤ item.lastModified ∧ item.lastModified < hi ∧ p.1 = item.key := by
  have hkey : p.1 ∈ (allSends lib job listing runs).map Prod.fst := List.mem_map_of_mem hp
  rw [keys_allSends, List.mem_flatMap] at hkey
  obtain ⟨run, hrun, hobject⟩ := hkey
  obtain ⟨window, hwindow⟩ := h.resolves run hrun
  have hitems := hobject
  simp only [windowObjects, hwindow, keys_iterObjectsBetween] at hitems
  obtain ⟨item, hitem, hkey⟩ := List.mem_map.1 hitems
  have hlisted := List.mem_of_mem_filter hitem
  have hmem : item.key ∈ runs.flatMap fun run =>
      (windowObjects lib job listing run).map (·.objectKey) :=
    List.mem_flatMap.2 ⟨run, hrun, hkey ▸ hobject⟩
  have hpos := List.count_pos_iff.2 hmem
  rw [count_windows h hlisted] at hpos
  have hin : inWindow (lo, hi) item = true := by
    by_contra hout
    rw [if_neg hout] at hpos
    exact absurd hpos (lt_irrefl 0)
  rw [inWindow, Bool.and_eq_true_iff, decide_eq_true_eq, decide_eq_true_eq] at hin
  exact ⟨item, hlisted, hin.1, hin.2, hkey.symm⟩

theorem forall_allSends {runs : List Run} :
    (∀ p ∈ allSends lib job listing runs, p.2 = 1) ↔
      ∀ run ∈ runs, StoresOnce lib job listing run := by
  simp only [allSends, List.forall_mem_flatMap, sendsOf, List.forall_mem_map, StoresOnce]
  refine forall₂_congr fun run _ => ⟨fun hall i hi => ?_, fun hall p hp => ?_⟩
  · exact hall (_, i) (List.mk_mem_zipIdx_iff_getElem?.2 (List.getElem?_eq_getElem hi))
  · exact hall p.2 (List.snd_lt_of_mem_zipIdx hp)

/-- **When runs have published what they report.** Runs with consecutive windows that all exit
without an error have one durable record from each object of the range, and each run reports as many
records as it made durable; exactly if each send stores its record once, unless a call raises an
exception. -/
theorem backfill_publishes_iff (lib : Libraries) (job : Job) (listing : Listing) (runs : List Run)
    (lo hi : ℤ) (h : Consecutive lib runs lo hi) :
    ((∀ run ∈ runs, ∃ report, (main lib job run listing).1 = .ok report) →
      (∀ item ∈ listing.items, lo ≤ item.lastModified → item.lastModified < hi →
        copies lib job listing runs item = 1) ∧
      ∀ run ∈ runs, ∀ report, (main lib job run listing).1 = .ok report →
        report.recordsSent + report.recordsInvalid = (main lib job run listing).2.length) ↔
    ((∀ run ∈ runs, Uninterrupted lib job listing run) →
      ∀ run ∈ runs, StoresOnce lib job listing run) := by
  have hexits : (∀ run ∈ runs, ∃ report, (main lib job run listing).1 = .ok report) ↔
      ∀ run ∈ runs, Uninterrupted lib job listing run := by
    refine forall₂_congr fun run hrun => ?_
    obtain ⟨window, hwindow⟩ := h.resolves run hrun
    exact exits_iff hwindow
  rw [hexits]
  refine forall_congr' fun hruns => ?_
  have hmain (run) (hrun : run ∈ runs) :=
    (h.resolves run hrun).elim fun window hwindow => main_spec hwindow (hruns run hrun)
  -- an object of the range has the copies of the only send for it
  have hcopies (item) (hitem : item ∈ listing.items) (hlo : lo ≤ item.lastModified)
      (hhi : item.lastModified < hi) : copies lib job listing runs item = 1 ↔
        ∀ p ∈ allSends lib job listing runs, p.1 = item.key → p.2 = 1 := by
    have hone : ((allSends lib job listing runs).map Prod.fst).count item.key = 1 := by
      rw [keys_allSends, count_windows h hitem, if_pos (by simp [inWindow, hlo, hhi])]
    rw [← sum_filter_eq_one hone, copies, allSends, List.filter_flatMap, List.map_flatMap,
      List.flatMap_def, List.sum_flatten, List.map_map]
    refine Eq.congr (congrArg List.sum (List.map_congr_left fun run hrun => ?_)) rfl
    rw [(hmain run hrun).1, countP_stored fun p hp => isProducedFrom_outgoing hp]
    rfl
  rw [← forall_allSends]
  refine ⟨fun hpublished p hp => ?_, fun honce => ⟨?_, ?_⟩⟩
  · obtain ⟨item, hitem, hlo, hhi, hkey⟩ := exists_item_of_mem_allSends h hp
    exact (hcopies item hitem hlo hhi).1 (hpublished.1 item hitem hlo hhi) p hp hkey
  · exact fun item hitem hlo hhi => (hcopies item hitem hlo hhi).2 fun p hp _ => honce p hp
  · intro run hrun report hok
    obtain ⟨hdurable, hreport⟩ := hmain run hrun
    have hall (n) (hn : n ∈ (sendsOf run 0 (windowObjects lib job listing run)).map Prod.snd) :
        n = 1 := by
      obtain ⟨p, hp, rfl⟩ := List.mem_map.1 hn
      exact honce p (List.mem_flatMap.2 ⟨run, hrun, hp⟩)
    rw [hreport report hok, hdurable, length_stored, List.sum_eq_card_nsmul _ 1 hall]
    simp [sendsOf]

/-- Libraries that know the beginnings of three hours. -/
def sampleLibraries : Libraries where
  fromisoformat s :=
    if s = "2026-01-01T00:00:00" then some (0, none)
    else if s = "2026-01-01T01:00:00" then some (3600000000, none)
    else if s = "2026-01-01T02:00:00" then some (7200000000, none)
    else none
  isoformat _ := "2026-01-01T00:00:01+00:00"
  guessType _ := some "image/png"
  suffix _ := ".png"
  lower s := s
  str _ := "backfill"
  double _ := 0

/-- A bucket with three objects, one of them at the end of the first hour. -/
def sampleListing : Listing where
  pages := [none, some [⟨"a.png", 42, 1000000⟩, ⟨"b.png", 7, 3600000000⟩],
    some [⟨"c.png", 1, 3700000000⟩]]
  nodup := by decide

/-- A run over the hour between two times, whose sends have the given fate. -/
def sampleRun (start stop : String) (fate : SendFate) : Run where
  args := ⟨none, some start, some stop⟩
  now := 0
  ingestedAt _ := "2026-01-01T03:00:00+00:00"
  deadLetterAt _ := "2026-01-01T03:00:00+00:00"
  sends _ := fate
  flushTimesOut := false

def firstHour : SendFate → Run := sampleRun "2026-01-01T00:00:00" "2026-01-01T01:00:00"

def secondHour : SendFate → Run := sampleRun "2026-01-01T01:00:00" "2026-01-01T02:00:00"

/-- Two runs whose sends succeed. -/
theorem backfill_publishes_sample :
    sampleListing.items.map (copies sampleLibraries ⟨"media", .image2d⟩ sampleListing
      [firstHour (.stored 0), secondHour (.stored 0)]) = [1, 1, 1] := by
  have hwindows : Consecutive sampleLibraries [firstHour (.stored 0), secondHour (.stored 0)] 0
      7200000000 := ⟨3600000000, by rfl, 7200000000, by rfl, rfl⟩
  have hruns : ∀ run ∈ [firstHour (.stored 0), secondHour (.stored 0)],
      Uninterrupted sampleLibraries ⟨"media", .image2d⟩ sampleListing run ∧
        StoresOnce sampleLibraries ⟨"media", .image2d⟩ sampleListing run := by
    simp only [List.forall_mem_cons, List.not_mem_nil, false_implies, implies_true, and_true]
    have hstored : SendFate.stored 0 ≠ .raises := by decide
    exact ⟨⟨⟨fun _ _ => hstored, rfl⟩, fun _ _ => rfl⟩, ⟨fun _ _ => hstored, rfl⟩, fun _ _ => rfl⟩
  have hpublished := ((backfill_publishes_iff sampleLibraries ⟨"media", .image2d⟩ sampleListing
    [firstHour (.stored 0), secondHour (.stored 0)] 0 7200000000 hwindows).2
      fun _ run hrun => (hruns run hrun).2) fun run hrun => by
        obtain ⟨window, hwindow⟩ := hwindows.resolves run hrun
        exact (exits_iff hwindow).2 (hruns run hrun).1
  have hitem (item) (hitem : item ∈ sampleListing.items)
      (h : 0 ≤ item.lastModified ∧ item.lastModified < 7200000000) :=
    hpublished.1 item hitem h.1 h.2
  simp only [sampleListing, Listing.items, List.flatMap_cons, List.flatMap_nil, Option.getD_none,
    Option.getD_some, List.nil_append, List.append_nil, List.cons_append, List.map_cons,
    List.map_nil] at hitem ⊢
  rw [hitem _ (by simp) (by decide), hitem _ (by simp) (by decide), hitem _ (by simp) (by decide)]

/-- A run whose future fails exits without an error and reports a record that is not durable; a run
whose record is stored again has more durable records than it reports. -/
theorem report_of_failed_send :
    Consecutive sampleLibraries [firstHour (.failed 0)] 0 3600000000 ∧
      (∃ report, (main sampleLibraries ⟨"media", .image2d⟩ (firstHour (.failed 0))
          sampleListing).1 = .ok report ∧ report.recordsSent = 1) ∧
      (main sampleLibraries ⟨"media", .image2d⟩ (firstHour (.failed 0)) sampleListing).2.length =
        0 ∧
      (main sampleLibraries ⟨"media", .image2d⟩ (firstHour (.stored 1)) sampleListing).2.length =
        2 := by
  refine ⟨⟨_, rfl, rfl⟩, ⟨_, rfl, ?_⟩, ?_, ?_⟩
  · decide +kernel
  · decide +kernel
  · decide +kernel

end ArchiDeal.Streams.Backfill
