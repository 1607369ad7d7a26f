import Mathlib.Data.List.Perm.Basic
import Mathlib.Tactic.Common

/-!
# Device identifiers from MQTT topics

Four programs read the device of a message from its MQTT topic: the bridge
(`mqtt-kafka-bridge/src/lib.rs`), the legacy bridge (`mqtt-kafka-bridge/bridge.py`), the normalizer
(`stream-normalizer/src/lib.rs`) and the Flink job (`flink/jobs/streaming_minimal.py`). All of them
look for markers among the parts of the topic, in an order of their own: the Rust programs have
arrays, the Python programs have sets, whose order of iteration is a parameter.

`device_ids_agree_iff`: they agree on a topic exactly if its markers name one device.
-/

namespace ArchiDeal.Streams

/-! ### Topics -/

/-- `str::to_ascii_lowercase`. -/
def asciiLower (s : String) : String := String.ofList (s.toList.map Char.toLower)

/-- The characters of a text are ASCII. -/
def IsAscii (s : String) : Prop := ∀ c ∈ s.toList, c.toNat < 128

instance (s : String) : Decidable (IsAscii s) :=
  List.decidableBAll _ _

/-- Python's `str.lower`. -/
structure Lowering where
  lower : String → String
  lower_ascii : ∀ s, IsAscii s → lower s = asciiLower s

/-- `topic.split('/')` without the empty parts. -/
def topicParts (topic : String) : List String :=
  ((topic.toList.splitOn '/').filter fun part => !part.isEmpty).map String.ofList

def wildfiSensorMarkers : List String :=
  ["acc", "accelerometer", "bme", "decoded", "environment", "gateway", "imu", "mag", "metadata",
    "move", "movement", "prox", "proximity", "sensor", "telemetry"]

def partAfterMarker (parts lowered : List String) (marker : String) : Option String :=
  (lowered.idxOf? marker).bind fun idx => parts[idx + 1]?

/-- The part after the first occurrence of a topic marker, or the second one if the first one names
a kind of sensor. -/
def partAfterWildfiMarker (parts lowered : List String) (marker : String) : Option String :=
  (lowered.idxOf? marker).bind fun idx =>
    if (lowered[idx + 1]?).all (· ∈ wildfiSensorMarkers) then parts[idx + 2]? else parts[idx + 1]?

/-- The search that the four programs make: tag markers, topic markers, the last part. -/
def deviceOf (lower : String → String) (tagMarkers topicMarkers : List String) (topic : String) :
    String :=
  let parts := topicParts topic
  let lowered := parts.map lower
  match tagMarkers.findSome? (partAfterMarker parts lowered) with
  | some device => device
  | none =>
    match topicMarkers.findSome? (partAfterWildfiMarker parts lowered) with
    | some device => device
    | none => parts.getLast?.getD "unknown"

def defaultPrefixes : List String := ["wildfi", "wild-fi"]

def deriveDeviceId (topic : String) (wildfiPrefixes : List String) : String :=
  deviceOf asciiLower ["tags", "tag", "devices"] (["wildfi", "wild-fi"] ++ wildfiPrefixes) topic

def inferEntityId (topic : String) : String :=
  deviceOf asciiLower ["devices", "tag", "tags"] ["wildfi", "wild-fi"] topic

/-- An order of iteration over the sets of markers of a Python program. -/
structure SetOrder where
  tagMarkers : List String
  topicMarkers : List String
  tag_perm : tagMarkers.Perm ["devices", "tag", "tags"]
  topic_perm : topicMarkers.Perm ["wildfi", "wild-fi"]

/-- `derive_device_id` of the legacy bridge. The default prefixes add nothing to the set of topic
markers. -/
def legacyDeviceId (py : Lowering) (order : SetOrder) (topic : String) : String :=
  deviceOf py.lower order.tagMarkers order.topicMarkers topic

def flinkEntityId (py : Lowering) (order : SetOrder) (topic : String) : String :=
  deviceOf py.lower order.tagMarkers order.topicMarkers topic

/-! ### What a topic names -/

/-- The topic names `device` right after its first part that is the marker, in any case. -/
def Tagged (topic marker device : String) : Prop :=
  ∃ before part rest, topicParts topic = before ++ part :: device :: rest ∧
    asciiLower part = marker ∧ ∀ p ∈ before, asciiLower p ≠ marker

/-- The topic names `device` after its first part that is the marker, with at most a kind of sensor
between them. -/
def Announced (topic marker device : String) : Prop :=
  ∃ before part rest, topicParts topic = before ++ part :: rest ∧ asciiLower part = marker ∧
    (∀ p ∈ before, asciiLower p ≠ marker) ∧
    ((∃ more, rest = device :: more ∧ asciiLower device ∉ wildfiSensorMarkers) ∨
      ∃ kind more, rest = kind :: device :: more ∧ asciiLower kind ∈ wildfiSensorMarkers)

/-- All tag markers of the topic name one device and, without any, so do its topic markers. -/
structure OneDevice (topic : String) : Prop where
  tags : ∀ m ∈ ["devices", "tag", "tags"], ∀ m' ∈ ["devices", "tag", "tags"],
    ∀ device device', Tagged topic m device → Tagged topic m' device' → device = device'
  topics : (∀ m ∈ ["devices", "tag", "tags"], ∀ device, ¬ Tagged topic m device) →
    ∀ m ∈ ["wildfi", "wild-fi"], ∀ m' ∈ ["wildfi", "wild-fi"],
    ∀ device device', Announced topic m device → Announced topic m' device' → device = device'

theorem idxOf?_map_eq_some {f : String → String} {parts : List String} {marker : String} {i : ℕ} :
    (parts.map f).idxOf? marker = some i ↔ ∃ before part rest,
      parts = before ++ part :: rest ∧ before.length = i ∧ f part = marker ∧
        ∀ p ∈ before, f p ≠ marker := by
  rw [List.idxOf?_eq_some_iff]
  constructor
  · rintro ⟨hi, hmarker, hfirst⟩
    have hlen : i < parts.length := by simpa using hi
    refine ⟨parts.take i, parts[i], parts.drop (i + 1), ?_,
      List.length_take_of_le (Nat.le_of_lt hlen), by simpa using hmarker, ?_⟩
    · rw [← List.drop_eq_getElem_cons hlen, List.take_append_drop]
    · intro p hp
      obtain ⟨j, hj, rfl⟩ := List.mem_iff_getElem.1 hp
      rw [List.length_take] at hj
      have hji : j < i := by omega
      have := hfirst j hji
      simpa using this
  · rintro ⟨before, part, rest, rfl, rfl, hmarker, hfirst⟩
    refine ⟨by simp, by simpa using hmarker, fun j hj => ?_⟩
    rw [List.getElem_map, List.getElem_append_left hj]
    exact hfirst _ (List.getElem_mem hj)

theorem partAfterMarker_eq_some {topic marker device : String} :
    partAfterMarker (topicParts topic) ((topicParts topic).map asciiLower) marker = some device ↔
      Tagged topic marker device := by
  unfold partAfterMarker
  rw [Option.bind_eq_some_iff]
  constructor
  · rintro ⟨i, hi, hdevice⟩
    obtain ⟨before, part, rest, hparts, rfl, hmarker, hfirst⟩ := idxOf?_map_eq_some.1 hi
    rw [hparts, List.getElem?_append_right (by omega)] at hdevice
    cases rest with
    | nil => simp at hdevice
    | cons d rest =>
      have hd : d = device := by simpa using hdevice
      exact ⟨before, part, rest, by rw [hparts, hd], hmarker, hfirst⟩
  · rintro ⟨before, part, rest, hparts, hmarker, hfirst⟩
    refine ⟨before.length, idxOf?_map_eq_some.2 ⟨before, part, _, hparts, rfl, hmarker, hfirst⟩, ?_⟩
    rw [hparts, List.getElem?_append_right (by omega)]
    simp

theorem partAfterWildfiMarker_eq_some {topic marker device : String} :
    partAfterWildfiMarker (topicParts topic) ((topicParts topic).map asciiLower) marker =
      some device ↔ Announced topic marker device := by
  unfold partAfterWildfiMarker
  rw [Option.bind_eq_some_iff]
  constructor
  · rintro ⟨i, hi, hdevice⟩
    obtain ⟨before, part, rest, hparts, rfl, hmarker, hfirst⟩ := idxOf?_map_eq_some.1 hi
    refine ⟨before, part, rest, hparts, hmarker, hfirst, ?_⟩
    rw [hparts, List.getElem?_map, List.getElem?_append_right (by omega),
      List.getElem?_append_right (by omega)] at hdevice
    -- a sensor marker after the marker is skipped
    match rest, hdevice with
    | [], hdevice => simp at hdevice
    | [d], hdevice =>
      by_cases hsensor : asciiLower d ∈ wildfiSensorMarkers
      · simp [hsensor] at hdevice
      · have hd : d = device := by simpa [hsensor] using hdevice
        exact .inl ⟨[], by rw [hd], hd ▸ hsensor⟩
    | d :: e :: more, hdevice =>
      by_cases hsensor : asciiLower d ∈ wildfiSensorMarkers
      · have he : e = device := by simpa [hsensor] using hdevice
        exact .inr ⟨d, more, by rw [he], hsensor⟩
      · have hd : d = device := by simpa [hsensor] using hdevice
        exact .inl ⟨e :: more, by rw [hd], hd ▸ hsensor⟩
  · rintro ⟨before, part, rest, hparts, hmarker, hfirst, hrest⟩
    refine ⟨before.length, idxOf?_map_eq_some.2 ⟨before, part, _, hparts, rfl, hmarker, hfirst⟩, ?_⟩
    rw [hparts, List.getElem?_map, List.getElem?_append_right (by omega),
      List.getElem?_append_right (by omega)]
    rcases hrest with ⟨more, rfl, hsensor⟩ | ⟨kind, more, rfl, hsensor⟩
    · simp [hsensor]
    · simp [hsensor]

/-! ### Searches in any order -/

section FindSome

variable {α β : Type} {f : α → Option β} {l l' : List α}

/-- If all results agree, the order of the search does not matter. -/
theorem findSome?_eq_of_perm (h : l.Perm l')
    (hone : ∀ a ∈ l, ∀ a' ∈ l, ∀ b b', f a = some b → f a' = some b' → b = b') :
    l.findSome? f = l'.findSome? f := by
  cases hl : l.findSome? f with
  | none =>
    rw [List.findSome?_eq_none_iff] at hl
    exact (List.findSome?_eq_none_iff.2 fun a ha => hl a (h.mem_iff.2 ha)).symm
  | some b =>
    obtain ⟨a, ha, hb⟩ := List.exists_of_findSome?_eq_some hl
    cases hl' : l'.findSome? f with
    | none => exact absurd (List.findSome?_eq_none_iff.1 hl' a (h.mem_iff.1 ha)) (by simp [hb])
    | some b' =>
      obtain ⟨a', ha', hb'⟩ := List.exists_of_findSome?_eq_some hl'
      rw [hone a ha a' (h.mem_iff.2 ha') b b' hb hb']

theorem exists_perm_findSome? [DecidableEq α] {a : α} {b : β} (ha : a ∈ l) (hb : f a = some b) :
    ∃ l' : List α, l'.Perm l ∧ l'.findSome? f = some b :=
  ⟨a :: l.erase a, (List.perm_cons_erase ha).symm, by simp [hb]⟩

end FindSome

/-! ### The four programs -/

theorem mem_of_mem_splitOn {sep c : Char} {cs part : List Char} (hpart : part ∈ cs.splitOn sep)
    (hc : c ∈ part) : c ∈ cs := by
  induction cs generalizing part with
  | nil =>
    rw [List.splitOn_nil, List.mem_singleton] at hpart
    rwa [hpart] at hc
  | cons d cs ih =>
    rw [List.splitOn_cons_eq_if_modifyHead] at hpart
    split_ifs at hpart
    · rcases List.mem_cons.1 hpart with rfl | hpart
      · cases hc
      · exact List.mem_cons_of_mem _ (ih hpart hc)
    · cases hsplit : cs.splitOn sep with
      | nil => exact absurd hsplit (List.splitOn_ne_nil _ _)
      | cons first more =>
        rw [hsplit, List.modifyHead_cons] at hpart
        rw [hsplit] at ih
        rcases List.mem_cons.1 hpart with rfl | hpart
        · rcases List.mem_cons.1 hc with rfl | hc
          · exact List.mem_cons_self
          · exact List.mem_cons_of_mem _ (ih List.mem_cons_self hc)
        · exact List.mem_cons_of_mem _ (ih (List.mem_cons_of_mem _ hpart) hc)

theorem map_lower_topicParts (py : Lowering) {topic : String} (h : IsAscii topic) :
    (topicParts topic).map py.lower = (topicParts topic).map asciiLower := by
  refine List.map_congr_left fun part hpart => py.lower_ascii part fun c hc => h c ?_
  obtain ⟨cs, hcs, rfl⟩ := List.mem_map.1 hpart
  rw [String.toList_ofList] at hc
  exact mem_of_mem_splitOn (List.mem_filter.1 hcs).1 hc

theorem deviceOf_lower (py : Lowering) {topic : String} (h : IsAscii topic)
    (tagMarkers topicMarkers : List String) :
    deviceOf py.lower tagMarkers topicMarkers topic =
      deviceOf asciiLower tagMarkers topicMarkers topic := by
  simp only [deviceOf, map_lower_topicParts py h]

theorem deriveDeviceId_default (topic : String) : deriveDeviceId topic defaultPrefixes =
    deviceOf asciiLower ["tags", "tag", "devices"] ["wildfi", "wild-fi"] topic := by
  simp only [deriveDeviceId, deviceOf, defaultPrefixes, List.findSome?_append, Option.or_self]

/-- On a topic that names one device, the order of the markers does not matter. -/
theorem OneDevice.deviceOf_eq {topic : String} (h : OneDevice topic) {tags tags' : List String}
    {topics topics' : List String} (htags : tags.Perm ["devices", "tag", "tags"])
    (htags' : tags'.Perm ["devices", "tag", "tags"]) (htopics : topics.Perm ["wildfi", "wild-fi"])
    (htopics' : topics'.Perm ["wildfi", "wild-fi"]) :
    deviceOf asciiLower tags topics topic = deviceOf asciiLower tags' topics' topic := by
  have hfirst := findSome?_eq_of_perm
    (f := partAfterMarker (topicParts topic) ((topicParts topic).map asciiLower))
    (htags.trans htags'.symm) fun m hm m' hm' d d' hd hd' =>
      h.tags m (htags.mem_iff.1 hm) m' (htags.mem_iff.1 hm') d d'
        (partAfterMarker_eq_some.1 hd) (partAfterMarker_eq_some.1 hd')
  simp only [deviceOf]
  rw [← hfirst]
  cases hfound : tags.findSome?
      (partAfterMarker (topicParts topic) ((topicParts topic).map asciiLower)) with
  | some device => rfl
  | none =>
    -- the markers of topics count only if no tag marker names a device
    have huntagged : ∀ m ∈ ["devices", "tag", "tags"], ∀ device, ¬ Tagged topic m device := by
      intro m hm device htagged
      have hnone := List.findSome?_eq_none_iff.1 hfound m (htags.mem_iff.2 hm)
      rw [partAfterMarker_eq_some.2 htagged] at hnone
      cases hnone
    have hsecond := findSome?_eq_of_perm
      (f := partAfterWildfiMarker (topicParts topic) ((topicParts topic).map asciiLower))
      (htopics.trans htopics'.symm) fun m hm m' hm' d d' hd hd' =>
        h.topics huntagged m (htopics.mem_iff.1 hm) m' (htopics.mem_iff.1 hm') d d'
          (partAfterWildfiMarker_eq_some.1 hd) (partAfterWildfiMarker_eq_some.1 hd')
    simp only [hsecond]

/-- **One topic, one device.** The four programs read the same device from an ASCII topic, for every
order of iteration of the Python programs, exactly if the markers of the topic name one device. -/
theorem device_ids_agree_iff (py : Lowering) {topic : String} (h : IsAscii topic) :
    (∀ order order' : SetOrder,
      legacyDeviceId py order topic = deriveDeviceId topic defaultPrefixes ∧
      inferEntityId topic = deriveDeviceId topic defaultPrefixes ∧
      flinkEntityId py order' topic = deriveDeviceId topic defaultPrefixes) ↔ OneDevice topic := by
  simp only [legacyDeviceId, flinkEntityId, deviceOf_lower py h, deriveDeviceId_default]
  constructor
  · intro hagree
    -- two Python programs that start with the two markers
    have hsame : ∀ order order' : SetOrder,
        deviceOf asciiLower order.tagMarkers order.topicMarkers topic =
          deviceOf asciiLower order'.tagMarkers order'.topicMarkers topic :=
      fun order order' => (hagree order order).1.trans (hagree order' order').1.symm
    refine ⟨fun m hm m' hm' d d' hd hd' => ?_, fun huntagged m hm m' hm' d d' hd hd' => ?_⟩
    · obtain ⟨l, hl, hfound⟩ := exists_perm_findSome? hm (partAfterMarker_eq_some.2 hd)
      obtain ⟨l', hl', hfound'⟩ := exists_perm_findSome? hm' (partAfterMarker_eq_some.2 hd')
      simpa only [deviceOf, hfound, hfound'] using hsame ⟨l, _, hl, .rfl⟩ ⟨l', _, hl', .rfl⟩
    · have hnone : ["devices", "tag", "tags"].findSome?
          (partAfterMarker (topicParts topic) ((topicParts topic).map asciiLower)) = none :=
        List.findSome?_eq_none_iff.2 fun m hm => Option.eq_none_iff_forall_ne_some.2
          fun device hdevice => huntagged m hm device (partAfterMarker_eq_some.1 hdevice)
      obtain ⟨l, hl, hfound⟩ := exists_perm_findSome? hm (partAfterWildfiMarker_eq_some.2 hd)
      obtain ⟨l', hl', hfound'⟩ := exists_perm_findSome? hm' (partAfterWildfiMarker_eq_some.2 hd')
      simpa only [deviceOf, hnone, hfound, hfound'] using hsame ⟨_, l, .rfl, hl⟩ ⟨_, l', .rfl, hl'⟩
  · intro hone order order'
    have htags : ["tags", "tag", "devices"].Perm ["devices", "tag", "tags"] := by decide
    exact ⟨hone.deviceOf_eq order.tag_perm htags order.topic_perm .rfl,
      hone.deviceOf_eq .rfl htags .rfl .rfl,
      hone.deviceOf_eq order'.tag_perm htags order'.topic_perm .rfl⟩

def asciiLowering : Lowering := ⟨asciiLower, fun _ _ => rfl⟩

theorem device_ids_agree_iff_sample :
    (fun order : SetOrder => flinkEntityId asciiLowering order "wildfi/tags/WF-001/gps") =
      fun _ => "WF-001" := by
  have htagged : ∀ m ∈ ["devices", "tag", "tags"],
      partAfterMarker (topicParts "wildfi/tags/WF-001/gps")
        ((topicParts "wildfi/tags/WF-001/gps").map asciiLower) m =
      if m = "tags" then some "WF-001" else none := by decide +kernel
  have hone : OneDevice "wildfi/tags/WF-001/gps" := by
    refine ⟨fun m hm m' hm' d d' hd hd' => ?_, fun huntagged => ?_⟩
    · have hd := (htagged m hm).symm.trans (partAfterMarker_eq_some.2 hd)
      have hd' := (htagged m' hm').symm.trans (partAfterMarker_eq_some.2 hd')
      split_ifs at hd hd'
      exact Option.some.inj (hd.symm.trans hd')
    · have hfound := htagged "tags" (by decide)
      exact absurd (partAfterMarker_eq_some.1 hfound) (huntagged "tags" (by decide) "WF-001")
  funext order
  obtain ⟨-, -, hflink⟩ :=
    (device_ids_agree_iff asciiLowering (by decide +kernel)).2 hone order order
  exact hflink.trans (by decide +kernel)

/-- The bridge and the normalizer take another marker first. -/
theorem two_markers_two_devices : IsAscii "devices/a/tags/b" ∧
    deriveDeviceId "devices/a/tags/b" defaultPrefixes = "b" ∧
    inferEntityId "devices/a/tags/b" = "a" := by
  decide +kernel

end ArchiDeal.Streams
