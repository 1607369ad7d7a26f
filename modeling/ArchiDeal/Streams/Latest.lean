import ArchiDeal.Lib.JsonOrder
import ArchiDeal.Lib.KeepLatest
import ArchiDeal.Lib.Rfc3339
import ArchiDeal.Streams.Normalizer
import Mathlib.Data.List.Lex

/-!
# The latest event of an entity

`LatestByEntity` of the Flink job and `LatestState` of the normalizer forward an event unless its
timestamp is smaller than the one of the last event that was forwarded for its entity. Both compare
texts: Python compares code points, Rust compares bytes. So the last event that they forward is the
one with the greatest text (`KeepLatest`).

* `state_is_latest_iff`: it is the chronologically latest one exactly if the greatest text denotes
  the latest instant;
* `latest_state_converges`: it does not depend on the order in which the events arrive.
-/

namespace ArchiDeal.Streams

open Py Text KeepLatest

/-! ### The two programs -/

/-- The number of a code point. -/
def code : CodePoint → ℕ
  | .char c => c.toNat
  | .surrogate n => 0xd800 + n

/-- The order of texts in Python. -/
def codes (s : Str) : List ℕ := s.map code

/-- The order of texts in Rust. -/
def bytes (s : Str) : List ℕ := (encode (s.filterMap CodePoint.char?)).map UInt8.toNat

/-- `LatestByEntity.process_element`: the state of every key after an event, and what is yielded. -/
def Flink.processElement (latestTs : Str → Option Str) (value : NormalizedEvent) :
    (Str → Option Str) × List NormalizedEvent :=
  let updated := Function.update latestTs value.entityId (some value.eventTs)
  match latestTs value.entityId with
  | none => (updated, [value])
  | some current =>
    if codes value.eventTs ≥ codes current then (updated, [value]) else (latestTs, [])

def Flink.latestByEntity (events : List NormalizedEvent) : List NormalizedEvent :=
  (events.foldl (fun r e => ((processElement r.1 e).1, r.2 ++ (processElement r.1 e).2))
    ((fun _ => none : Str → Option Str), [])).2

/-- `LatestState::accepts`: the answer, and the map after it. -/
def Rust.accepts (latestByEntity : Str → Option Str) (event : NormalizedEvent) :
    Bool × (Str → Option Str) :=
  let inserted := Function.update latestByEntity event.entityId (some event.eventTs)
  match latestByEntity event.entityId with
  | some current =>
    if bytes event.eventTs < bytes current then (false, latestByEntity) else (true, inserted)
  | none => (true, inserted)

/-- The events of a stream that `LatestState` accepts. -/
def Rust.acceptedEvents (events : List NormalizedEvent) : List NormalizedEvent :=
  (events.foldl (fun r e => ((accepts r.1 e).2, if (accepts r.1 e).1 then r.2 ++ [e] else r.2))
    ((fun _ => none : Str → Option Str), [])).2

theorem Flink.latestByEntity_eq (events : List NormalizedEvent) :
    latestByEntity events =
      (run NormalizedEvent.entityId NormalizedEvent.eventTs codes events).2 := by
  unfold latestByEntity run
  congr 2
  funext r e
  simp only [processElement, step]
  cases r.1 e.entityId with
  | none => simp
  | some current => by_cases h : codes current ≤ codes e.eventTs <;> simp [h]

theorem Rust.accepts_eq (latestByEntity : Str → Option Str) (event : NormalizedEvent) :
    accepts latestByEntity event =
      if (latestByEntity event.entityId).all (bytes · ≤ bytes event.eventTs) then
        (true, Function.update latestByEntity event.entityId (some event.eventTs))
      else (false, latestByEntity) := by
  unfold accepts
  cases latestByEntity event.entityId with
  | none => simp
  | some current => by_cases h : bytes current ≤ bytes event.eventTs <;> simp [h]

theorem Rust.acceptedEvents_eq (events : List NormalizedEvent) :
    acceptedEvents events =
      (run NormalizedEvent.entityId NormalizedEvent.eventTs bytes events).2 := by
  unfold acceptedEvents run
  congr 2
  funext r e
  rw [accepts_eq, step]
  by_cases h : ((r.1 e.entityId).all (bytes · ≤ bytes e.eventTs)) = true <;> simp [h]

/-! ### Instants -/

def instant (e : NormalizedEvent) : Option ℚ :=
  e.eventTs.text?.bind fun text => Rfc3339.instant text.toList

/-- The last event that was forwarded for the entity has the greatest instant of its events. -/
def HoldsLatest (entity : Str) (events forwarded : List NormalizedEvent) : Prop :=
  (∃ f ∈ events, f.entityId = entity) →
    ∃ e, lastOf NormalizedEvent.entityId entity forwarded = some e ∧
      ∃ t, instant e = some t ∧
        ∀ f ∈ events, f.entityId = entity → ∀ u, instant f = some u → u ≤ t

/-- An event of the entity whose timestamp is the greatest text has the greatest instant. -/
def TextsOrdered (entity : Str) (events : List NormalizedEvent) : Prop :=
  ∀ e ∈ events, e.entityId = entity →
    (∀ f ∈ events, f.entityId = entity → codes f.eventTs ≤ codes e.eventTs) →
    ∀ f ∈ events, f.entityId = entity → ∀ t u, instant e = some t → instant f = some u → u ≤ t

theorem code_injective {c d : CodePoint} (h : code c = code d) : c = d := by
  -- the number of a character is no surrogate
  have hchar : ∀ c : Char, c.toNat < 0xd800 ∨ 0xdfff < c.toNat := fun c => by
    rcases c.valid with h | h
    · exact .inl h
    · exact .inr h.1
  cases c with
  | char c =>
    cases d with
    | char d => rw [Char.toNat_inj.1 h]
    | surrogate n =>
      simp only [code] at h
      rcases hchar c <;> omega
  | surrogate m =>
    cases d with
    | char d =>
      simp only [code] at h
      rcases hchar d <;> omega
    | surrogate n =>
      simp only [code] at h
      exact congrArg _ (Fin.ext (by omega))

theorem codes_injective {s t : Str} (h : codes s = codes t) : s = t :=
  List.map_injective_iff.2 (fun _ _ => code_injective) h

theorem encode_of_ascii {cs : List Char} (h : Rfc3339.Ascii cs) :
    (encode cs).map UInt8.toNat = cs.map Char.toNat := by
  induction cs with
  | nil => rfl
  | cons c cs ih =>
    obtain ⟨hc, hcs⟩ := List.forall_mem_cons.1 h
    have hbyte : (UInt8.ofNat c.toNat).toNat = c.toNat := by
      rw [UInt8.toNat_ofNat', Nat.mod_eq_of_lt (by omega)]
    have hrest := ih hcs
    rw [encode] at hrest
    rw [encode, List.flatMap_cons, utf8EncodeChar_of_ascii hc, List.map_append, hrest,
      List.map_cons, List.map_nil, hbyte, List.map_cons, List.singleton_append]

theorem eq_map_of_mapM_char? {s : Str} {cs : List Char} (h : s.mapM CodePoint.char? = some cs) :
    s = cs.map .char := by
  induction s generalizing cs with
  | nil => cases h; rfl
  | cons c s ih =>
    rw [List.mapM_cons] at h
    obtain ⟨d, hd, h⟩ := Option.bind_eq_some_iff.1 h
    obtain ⟨ds, hds, h⟩ := Option.bind_eq_some_iff.1 h
    cases h
    cases c with
    | char c =>
      cases hd
      rw [ih hds, List.map_cons]
    | surrogate n => cases hd

theorem bytes_injective {s t : Str} (hs : s.text?.isSome = true) (ht : t.text?.isSome = true)
    (h : bytes s = bytes t) : s = t := by
  have hchars : ∀ cs : List Char, (cs.map CodePoint.char).filterMap CodePoint.char? = cs := by
    intro cs
    rw [List.filterMap_map]
    exact List.filterMap_some
  simp only [Str.text?, Option.isSome_map] at hs ht
  obtain ⟨cs, hcs⟩ := Option.isSome_iff_exists.1 hs
  obtain ⟨ds, hds⟩ := Option.isSome_iff_exists.1 ht
  rw [eq_map_of_mapM_char? hcs, eq_map_of_mapM_char? hds] at h ⊢
  rw [bytes, bytes, hchars, hchars] at h
  rw [encode_injective (List.map_injective_iff.2 (fun _ _ => UInt8.toNat_inj.1) h)]

theorem bytes_eq_codes {e : NormalizedEvent} {t : ℚ} (h : instant e = some t) :
    bytes e.eventTs = codes e.eventTs := by
  obtain ⟨text, htext, hinstant⟩ := Option.bind_eq_some_iff.1 h
  obtain ⟨cs, hcs, rfl⟩ := Option.map_eq_some_iff.1 htext
  rw [String.toList_ofList] at hinstant
  have hchars : (cs.map CodePoint.char).filterMap CodePoint.char? = cs := by
    rw [List.filterMap_map]
    exact List.filterMap_some
  rw [bytes, codes, eq_map_of_mapM_char? hcs, hchars,
    encode_of_ascii (Rfc3339.instant_ascii hinstant), List.map_map]
  rfl

section Holds

variable {entity : Str} {events : List NormalizedEvent}

/-- A program that keeps the greatest text holds the latest event exactly if the texts are ordered
like the instants. -/
theorem holdsLatest_iff {rank : Str → List ℕ} {r : (Str → Option Str) × List NormalizedEvent}
    (hkept : Kept NormalizedEvent.entityId NormalizedEvent.eventTs rank events r)
    (hts : ∀ e ∈ events, e.entityId = entity → (instant e).isSome = true)
    (hrank : ∀ e ∈ events, e.entityId = entity → rank e.eventTs = codes e.eventTs) :
    HoldsLatest entity events r.2 ↔ TextsOrdered entity events := by
  -- the last event that was forwarded has the greatest text
  have hgreatest : ∀ e, lastOf NormalizedEvent.entityId entity r.2 = some e → ∀ f ∈ events,
      f.entityId = entity → codes f.eventTs ≤ codes e.eventTs := by
    rintro e he f hf rfl
    obtain ⟨hmem, hentity⟩ := hkept.mem _ e he
    obtain ⟨g, hg, hle⟩ := hkept.max f hf
    cases he.symm.trans hg
    rwa [hrank f hf rfl, hrank e hmem hentity] at hle
  constructor
  · intro hholds e he hentity htext f hf hfentity t u ht hu
    obtain ⟨g, hg, t', ht', hmax⟩ := hholds ⟨e, he, hentity⟩
    obtain ⟨hgmem, hgentity⟩ := hkept.mem entity g hg
    have hsame : e.eventTs = g.eventTs :=
      codes_injective (le_antisymm (hgreatest g hg e he hentity) (htext g hgmem hgentity))
    rw [instant, hsame] at ht
    cases ht.symm.trans ht'
    exact hmax f hf hfentity u hu
  · rintro hordered ⟨f, hf, rfl⟩
    obtain ⟨e, he, -⟩ := hkept.max f hf
    obtain ⟨hmem, hentity⟩ := hkept.mem _ e he
    obtain ⟨t, ht⟩ := Option.isSome_iff_exists.1 (hts e hmem hentity)
    exact ⟨e, he, t, ht, fun g hg hgentity u hu =>
      hordered e hmem hentity (hgreatest e he) g hg hgentity t u ht hu⟩

end Holds

/-- **The last event that the programs forward is the latest one** exactly if, among the events of
the entity, the greatest timestamp as a text denotes the greatest instant. -/
theorem state_is_latest_iff (entity : Str) (events : List NormalizedEvent)
    (hts : ∀ e ∈ events, e.entityId = entity → (instant e).isSome = true) :
    (HoldsLatest entity events (Flink.latestByEntity events) ∧
      HoldsLatest entity events (Rust.acceptedEvents events)) ↔ TextsOrdered entity events := by
  rw [Flink.latestByEntity_eq, Rust.acceptedEvents_eq,
    holdsLatest_iff (run_kept events) hts fun _ _ _ => rfl,
    holdsLatest_iff (run_kept events) hts fun e he hentity => ?_, and_self_iff]
  obtain ⟨t, ht⟩ := Option.isSome_iff_exists.1 (hts e he hentity)
  exact bytes_eq_codes ht

/-! ### Two offsets -/

/-- An event of the entity `a` with a timestamp. -/
def sampleEvent (eventTs : String) : NormalizedEvent where
  entityId := lit "a"
  sourceEventId := []
  eventTs := lit eventTs
  sourceTopic := lit "raw.sensor"
  mqttTopic := []
  eventKind := "sensor"
  payloadB64 := []
  qos := 0
  retain := false
  rawJson := ""

/-- Two events a minute apart, in the order of their texts. -/
def sampleOrdered : List NormalizedEvent :=
  [sampleEvent "2026-01-01T00:30:00Z", sampleEvent "2026-01-01T00:31:00Z"]

theorem state_is_latest_iff_sample :
    HoldsLatest (lit "a") sampleOrdered (Flink.latestByEntity sampleOrdered) ∧
      HoldsLatest (lit "a") sampleOrdered (Rust.acceptedEvents sampleOrdered) := by
  refine (state_is_latest_iff (lit "a") sampleOrdered (by decide +kernel)).2 ?_
  have hlast : instant (sampleEvent "2026-01-01T00:31:00Z") = some 63934446660 := by decide +kernel
  have hfirst : instant (sampleEvent "2026-01-01T00:30:00Z") = some 63934446600 := by decide +kernel
  have hless : ¬ codes (sampleEvent "2026-01-01T00:31:00Z").eventTs ≤
      codes (sampleEvent "2026-01-01T00:30:00Z").eventTs := by decide +kernel
  intro e he _ htext f hf _ t u ht hu
  simp only [sampleOrdered, List.mem_cons, List.not_mem_nil, or_false] at he hf
  rcases he with rfl | rfl
  · exact absurd (htext _ (by simp [sampleOrdered]) rfl) hless
  · cases hlast.symm.trans ht
    rcases hf with rfl | rfl
    · cases hfirst.symm.trans hu
      decide
    · cases hlast.symm.trans hu
      rfl

/-- **The latest state converges.** Streams with the same events, in any order and with any
repetition, leave the same last event of every entity, in both programs, if no two events of an
entity have the same timestamp. No string of Rust has surrogates. -/
theorem latest_state_converges {events events' : List NormalizedEvent}
    (hsame : ∀ e, e ∈ events ↔ e ∈ events')
    (hdistinct : ∀ e ∈ events, ∀ f ∈ events, e.entityId = f.entityId →
      e.eventTs = f.eventTs → e = f) (entity : Str) :
    lastOf NormalizedEvent.entityId entity (Flink.latestByEntity events) =
      lastOf NormalizedEvent.entityId entity (Flink.latestByEntity events') ∧
    ((∀ e ∈ events, e.eventTs.text?.isSome = true) →
      lastOf NormalizedEvent.entityId entity (Rust.acceptedEvents events) =
        lastOf NormalizedEvent.entityId entity (Rust.acceptedEvents events')) := by
  simp only [Flink.latestByEntity_eq, Rust.acceptedEvents_eq]
  constructor
  · apply lastOf_run_eq hsame
    intro e he f hf hentity hcodes
    exact hdistinct e he f hf hentity (codes_injective hcodes)
  · intro htexts
    apply lastOf_run_eq hsame
    intro e he f hf hentity hbytes
    exact hdistinct e he f hf hentity (bytes_injective (htexts e he) (htexts f hf) hbytes)

/-- The events arrive in the other order, the first one twice. -/
theorem latest_state_converges_sample :
    lastOf NormalizedEvent.entityId (lit "a") (Rust.acceptedEvents sampleOrdered) =
      lastOf NormalizedEvent.entityId (lit "a")
        (Rust.acceptedEvents (sampleEvent "2026-01-01T00:30:00Z" :: sampleOrdered.reverse)) := by
  refine (latest_state_converges (fun e => ?_) (by decide +kernel) (lit "a")).2 (by decide +kernel)
  simp [sampleOrdered, or_comm]

/-- The second event is half an hour later, and its text is smaller. -/
def sampleOffsets : List NormalizedEvent :=
  [sampleEvent "2026-01-01T01:00:00+01:00", sampleEvent "2026-01-01T00:30:00Z"]

theorem later_event_dropped :
    (∀ e ∈ sampleOffsets, e.entityId = lit "a" ∧ (instant e).isSome = true) ∧
      ¬ HoldsLatest (lit "a") sampleOffsets (Flink.latestByEntity sampleOffsets) ∧
      ¬ HoldsLatest (lit "a") sampleOffsets (Rust.acceptedEvents sampleOffsets) := by
  have hinstants : instant (sampleEvent "2026-01-01T01:00:00+01:00") = some 63934444800 ∧
      instant (sampleEvent "2026-01-01T00:30:00Z") = some 63934446600 := by decide +kernel
  have hdropped : ∀ forwarded, lastOf NormalizedEvent.entityId (lit "a") forwarded =
      some (sampleEvent "2026-01-01T01:00:00+01:00") →
      ¬ HoldsLatest (lit "a") sampleOffsets forwarded := by
    intro forwarded hlast h
    obtain ⟨e, he, t, ht, hmax⟩ := h ⟨_, List.mem_cons_self, rfl⟩
    cases hlast.symm.trans he
    cases hinstants.1.symm.trans ht
    exact absurd (hmax _ (by simp [sampleOffsets]) rfl _ hinstants.2) (by decide)
  exact ⟨by decide +kernel, hdropped _ (by decide +kernel), hdropped _ (by decide +kernel)⟩

end ArchiDeal.Streams
