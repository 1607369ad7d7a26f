import ArchiDeal.Streams.Bridge

/-!
# Event identifiers

The identifier of an event is the SHA-256 digest of its source, its topic and its material, with
zero bytes between them. Sources, topics and the names of identity fields have no zero byte, and the
device is the topic's; so the hashed bytes determine the topic, the field and the identity, whatever
the identity is (`hashed_eq_iff`).

`event_ids_identify`: two identified deliveries have one identifier exactly if they agree on these
three, and a delivery without an identity shares its identifier with no other.
-/

namespace ArchiDeal.Streams.Bridge

open Text Events

variable (lib : Libraries) (config : BridgeConfig)

/-! ### Identities -/

/-- `field` is the first usable identity field of the payload, and `identity` is its text. -/
def Identified (d : Delivery) (field identity : String) : Prop :=
  ∃ object, Event.ofObject (decodePayload lib d.payload) = some object ∧
    identityOf lib object field = some identity ∧ ∃ before after,
      identityFields = before ++ field :: after ∧ ∀ f ∈ before, identityOf lib object f = none

/-- The payload has no usable identity field. -/
def Unidentified (d : Delivery) : Prop := ∀ field identity, ¬ Identified lib d field identity

/-- What `buildEvent` hashes. -/
def hashed (d : Delivery) : List UInt8 :=
  hashedBytes (eventSourceForTopic d.topic config.wildfiTopicPrefixes) d.topic
    (deliveryMaterial lib (deriveDeviceId d.topic config.wildfiTopicPrefixes)
      (decodePayload lib d.payload) d.uuid)

def identityMaterial (d : Delivery) (field identity : String) : List UInt8 :=
  encode (field.toList ++ '\x00' ::
    ((deriveDeviceId d.topic config.wildfiTopicPrefixes).toList ++ '\x00' :: identity.toList))

def eventId (d : Delivery) : Option Json := (buildEvent lib config d).event.get? "event_id"

section Material

variable {lib config} {d : Delivery} {field identity : String}

theorem sourceEventIdentity_eq_some :
    sourceEventIdentity lib (decodePayload lib d.payload) = some (field, identity) ↔
      Identified lib d field identity := by
  unfold sourceEventIdentity Identified
  rw [Option.bind_eq_some_iff]
  refine exists_congr fun object => and_congr_right fun _ => ?_
  rw [List.findSome?_eq_some_iff]
  simp only [Option.map_eq_some_iff, Prod.mk.injEq, Option.map_eq_none_iff]
  constructor
  · rintro ⟨before, f, after, hfields, ⟨i, hi, rfl, rfl⟩, hbefore⟩
    exact ⟨hi, before, after, hfields, hbefore⟩
  · rintro ⟨hi, before, after, hfields, hbefore⟩
    exact ⟨before, field, after, hfields, ⟨identity, hi, rfl, rfl⟩, hbefore⟩

theorem unidentified_iff : Unidentified lib d ↔
    sourceEventIdentity lib (decodePayload lib d.payload) = none := by
  rw [Option.eq_none_iff_forall_ne_some, Prod.forall]
  exact forall₂_congr fun _ _ => not_congr sourceEventIdentity_eq_some.symm

theorem deliveryMaterial_of_identified (h : Identified lib d field identity) :
    deliveryMaterial lib (deriveDeviceId d.topic config.wildfiTopicPrefixes)
      (decodePayload lib d.payload) d.uuid = identityMaterial config d field identity := by
  rw [deliveryMaterial, sourceEventIdentity_eq_some.2 h]
  rfl

theorem deliveryMaterial_of_unidentified (h : Unidentified lib d) :
    deliveryMaterial lib (deriveDeviceId d.topic config.wildfiTopicPrefixes)
      (decodePayload lib d.payload) d.uuid = d.uuid := by
  unfold deliveryMaterial
  split
  · next hidentity => exact absurd (sourceEventIdentity_eq_some.1 hidentity) (h _ _)
  · rfl

theorem eventId_eq :
    eventId lib config d = some (.str (Sha256.hexdigest (hashed lib config d))) := by
  simp [eventId, buildEvent, Event.insertAll, Event.get?_insert, hashed, eventIdForDelivery,
    deterministicEventId]

end Material

/-! ### Zero bytes -/

/-- A list is split in one way at the first occurrence of a value. -/
theorem append_cons_inj_of_notMem {α : Type} {x : α} {a a' b b' : List α} (ha : x ∉ a)
    (ha' : x ∉ a') (h : a ++ x :: b = a' ++ x :: b') : a = a' ∧ b = b' := by
  induction a generalizing a' with
  | nil =>
    cases a' with
    | nil => exact ⟨rfl, (List.cons.inj h).2⟩
    | cons y a' => exact absurd (List.cons.inj h).1 fun hxy => ha' (hxy ▸ .head _)
  | cons y a ih =>
    cases a' with
    | nil => exact absurd (List.cons.inj h).1 fun hyx => ha (hyx ▸ .head _)
    | cons z a' =>
      obtain ⟨rfl, htail⟩ := List.cons.inj h
      obtain ⟨rfl, rfl⟩ := ih (fun hx => ha (.tail _ hx)) (fun hx => ha' (.tail _ hx)) htail
      exact ⟨rfl, rfl⟩

theorem zero_notMem_utf8EncodeChar {c : Char} (h : c ≠ '\x00') :
    (0 : UInt8) ∉ String.utf8EncodeChar c := by
  have hval : c.val.toNat = c.toNat := rfl
  have hpos : c.toNat ≠ 0 := fun hzero => h (Char.toNat_inj.1 (by rw [hzero]; rfl))
  have hbyte : ∀ n, (0 : UInt8) = UInt8.ofNat n → n % 256 = 0 := fun n hn => by
    simpa using (congrArg UInt8.toNat hn).symm
  simp only [String.utf8EncodeChar, hval]
  -- the bytes of a longer character are at least 128
  split_ifs with h₁ h₂ h₃ <;> simp only [List.mem_cons, List.not_mem_nil, or_false]
  · intro h0
    have := hbyte _ h0
    omega
  · rintro (h0 | h0) <;> have := hbyte _ h0 <;> omega
  · rintro (h0 | h0 | h0) <;> have := hbyte _ h0 <;> omega
  · rintro (h0 | h0 | h0 | h0) <;> have := hbyte _ h0 <;> omega

theorem zero_notMem_encode {cs : List Char} (h : '\x00' ∉ cs) : 0 ∉ encode cs := by
  rw [encode, List.mem_flatMap]
  rintro ⟨c, hc, hzero⟩
  exact zero_notMem_utf8EncodeChar (fun hc0 => h (hc0 ▸ hc)) hzero

theorem zero_notMem_identityFields : ∀ field ∈ identityFields, '\x00' ∉ field.toList := by
  decide

theorem zero_notMem_eventSource (topic : String) (prefixes : List String) :
    '\x00' ∉ (eventSourceForTopic topic prefixes).toList := by
  unfold eventSourceForTopic
  split_ifs <;> decide

/-! ### Identifiers -/

section Hashed

variable {lib config} {d d' : Delivery}

theorem hashed_eq_iff (h : '\x00' ∉ d.topic.toList) (h' : '\x00' ∉ d'.topic.toList) :
    hashed lib config d = hashed lib config d' ↔ d.topic = d'.topic ∧
      deliveryMaterial lib (deriveDeviceId d.topic config.wildfiTopicPrefixes)
          (decodePayload lib d.payload) d.uuid =
        deliveryMaterial lib (deriveDeviceId d'.topic config.wildfiTopicPrefixes)
          (decodePayload lib d'.payload) d'.uuid := by
  constructor
  · intro heq
    obtain ⟨-, hrest⟩ := append_cons_inj_of_notMem
      (zero_notMem_encode (zero_notMem_eventSource _ _))
      (zero_notMem_encode (zero_notMem_eventSource _ _)) heq
    obtain ⟨htopic, hmaterial⟩ := append_cons_inj_of_notMem (zero_notMem_encode h)
      (zero_notMem_encode h') hrest
    exact ⟨String.toList_inj.1 (encode_injective htopic), hmaterial⟩
  · rintro ⟨htopic, hmaterial⟩
    rw [hashed, hashed, hmaterial, htopic]

/-- The material of an identity determines its field and its text, for one device. -/
theorem identityMaterial_eq_iff {field field' identity identity' : String}
    (htopic : d.topic = d'.topic) (hfield : field ∈ identityFields)
    (hfield' : field' ∈ identityFields) :
    identityMaterial config d field identity = identityMaterial config d' field' identity' ↔
      field = field' ∧ identity = identity' := by
  constructor
  · intro heq
    rw [identityMaterial, identityMaterial, htopic] at heq
    obtain ⟨hf, hrest⟩ := append_cons_inj_of_notMem (zero_notMem_identityFields field hfield)
      (zero_notMem_identityFields field' hfield') (encode_injective heq)
    have hidentity := List.cons.inj (List.append_cancel_left hrest)
    exact ⟨String.toList_inj.1 hf, String.toList_inj.1 hidentity.2⟩
  · rintro ⟨rfl, rfl⟩
    rw [identityMaterial, identityMaterial, htopic]

theorem Identified.mem {field identity : String} (h : Identified lib d field identity) :
    field ∈ identityFields := by
  obtain ⟨-, -, -, before, after, hfields, -⟩ := h
  rw [hfields]
  simp

end Hashed

/-- **Identifiers neither conflate nor split measurements.** Suppose the topics have no zero
character, SHA-256 is injective on what is hashed, and a fresh identifier is neither another fresh
identifier nor the material of an identity. Then two identified deliveries have the same `event_id`
exactly if they have the same topic, first usable identity field and identity, and a delivery
without an identity shares its `event_id` with no other. -/
theorem event_ids_identify {ι : Type} (deliveries : ι → Delivery)
    (htopic : ∀ i, '\x00' ∉ (deliveries i).topic.toList)
    (hsha : ∀ i j, Sha256.hexdigest (hashed lib config (deliveries i)) =
        Sha256.hexdigest (hashed lib config (deliveries j)) →
      hashed lib config (deliveries i) = hashed lib config (deliveries j))
    (hfresh : ∀ i j, i ≠ j → Unidentified lib (deliveries i) → Unidentified lib (deliveries j) →
      (deliveries i).uuid ≠ (deliveries j).uuid)
    (hapart : ∀ i j field identity, Unidentified lib (deliveries i) →
      Identified lib (deliveries j) field identity →
      (deliveries i).uuid ≠ identityMaterial config (deliveries j) field identity) :
    (∀ i j field identity field' identity', Identified lib (deliveries i) field identity →
      Identified lib (deliveries j) field' identity' →
      (eventId lib config (deliveries i) = eventId lib config (deliveries j) ↔
        (deliveries i).topic = (deliveries j).topic ∧ field = field' ∧ identity = identity')) ∧
    ∀ i j, i ≠ j → Unidentified lib (deliveries i) →
      eventId lib config (deliveries i) ≠ eventId lib config (deliveries j) := by
  -- identifiers are equal exactly if what is hashed is
  have hids : ∀ i j, eventId lib config (deliveries i) = eventId lib config (deliveries j) ↔
      hashed lib config (deliveries i) = hashed lib config (deliveries j) := fun i j => by
    rw [eventId_eq, eventId_eq, Option.some_inj, Json.str.injEq]
    exact ⟨hsha i j, congrArg _⟩
  refine ⟨fun i j field identity field' identity' hi hj => ?_, fun i j hij hi heq => ?_⟩
  · rw [hids, hashed_eq_iff (htopic i) (htopic j), deliveryMaterial_of_identified hi,
      deliveryMaterial_of_identified hj]
    exact and_congr_right fun hsame => identityMaterial_eq_iff hsame hi.mem hj.mem
  · rw [hids, hashed_eq_iff (htopic i) (htopic j), deliveryMaterial_of_unidentified hi] at heq
    -- a fresh identifier against another one, or against an identity
    by_cases hj : Unidentified lib (deliveries j)
    · rw [deliveryMaterial_of_unidentified hj] at heq
      exact hfresh i j hij hi hj heq.2
    · obtain ⟨field, identity, hj⟩ : ∃ field identity,
          Identified lib (deliveries j) field identity := by
        simpa only [Unidentified, not_forall, not_not] using hj
      rw [deliveryMaterial_of_identified hj] at heq
      exact hapart i j field identity hi hj heq.2

/-! ### Three deliveries -/

/-- Libraries for payloads without doubles. -/
def sampleLibraries : Libraries where
  serde := .nearest
  float _ := ⟨"0.5", by decide⟩
  double _ := 0
  floatText _ := "0.0"
  text _ := "[]"
  div _ _ := 0
  mul _ _ := 0
  timestamp _ _ := none

/-- The defaults. -/
def sampleConfig : BridgeConfig := ⟨"raw.sensor", defaultPrefixes⟩

/-- A counter, the counter in a text, and a payload without an identity. -/
def sampleDeliveries (i : Fin 3) : Delivery where
  topic := "devices/a/sensor"
  payload := encode (["\x7b\"counter\":7\x7d", "\x7b\"counter\":\" 7 \"\x7d", "7"][i]).toList
  qos := 1
  retain := false
  ingestedAt := "2026-01-01T00:00:00+00:00"
  uuid := List.replicate 16 1

theorem sample_identities (i : Fin 3) :
    sourceEventIdentity sampleLibraries
      (decodePayload sampleLibraries (sampleDeliveries i).payload) =
      if i = 2 then none else some ("counter", "7") := by
  revert i
  decide +kernel

theorem event_ids_identify_sample :
    eventId sampleLibraries sampleConfig (sampleDeliveries 0) =
        eventId sampleLibraries sampleConfig (sampleDeliveries 1) ∧
      eventId sampleLibraries sampleConfig (sampleDeliveries 2) ≠
        eventId sampleLibraries sampleConfig (sampleDeliveries 0) := by
  have hidentified : ∀ i field identity,
      Identified sampleLibraries (sampleDeliveries i) field identity ↔
        i ≠ 2 ∧ "counter" = field ∧ "7" = identity := by
    intro i field identity
    rw [← sourceEventIdentity_eq_some, sample_identities]
    split_ifs with hi <;> simp [hi]
  have hunidentified : ∀ i, Unidentified sampleLibraries (sampleDeliveries i) ↔ i = 2 := by
    intro i
    rw [unidentified_iff, sample_identities]
    split_ifs with hi <;> simp [hi]
  have hmaterial : ∀ i j, (sampleDeliveries i).uuid ≠
      identityMaterial sampleConfig (sampleDeliveries j) "counter" "7" := by
    decide +kernel
  have hids := event_ids_identify sampleLibraries sampleConfig sampleDeliveries (by decide)
    (by decide +kernel)
    (fun i j hij hi hj => absurd (((hunidentified i).1 hi).trans ((hunidentified j).1 hj).symm) hij)
    (fun i j field identity hi hj => by
      obtain ⟨-, rfl, rfl⟩ := (hidentified j field identity).1 hj
      exact hmaterial i j)
  exact ⟨(hids.1 0 1 _ _ _ _ ((hidentified 0 _ _).2 ⟨by decide, rfl, rfl⟩)
    ((hidentified 1 _ _).2 ⟨by decide, rfl, rfl⟩)).2 ⟨rfl, rfl, rfl⟩,
    hids.2 2 0 (by decide) ((hunidentified 2).2 rfl)⟩

end ArchiDeal.Streams.Bridge
