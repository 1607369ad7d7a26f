import ArchiDeal.Lib.Json
import ArchiDeal.Lib.Transition
import Mathlib.Logic.ExistsUnique
import Mathlib.Logic.Function.Basic

/-!
# Idempotent persistence of events

`persist_idempotent_event` of `dealdata_common/ingestion.py`, as the GPS and the sensor layer use
it: look for the event, validate it, insert it, and look again if the insert meets a row that
another worker has committed. A worker takes one of these steps at a time; the validation and the
insert see every row that has been committed before them.

`copies_persisted_once`: copies of one event are stored once and reported as duplicates of it by all
other workers, in every run in which no worker validates a copy that is already stored. Without the
condition a worker that had not found the event may refuse it (`stored_copy_refused`): `full_clean`
checks the unique constraints, too, and its `ValidationError` is not taken for a duplicate.
-/

namespace ArchiDeal.Ingest

open Transition

/-! ### Events -/

/-- The fields of an event that persistence and its response use. The identifier is generated with
the instance, before it is stored. -/
structure Event where
  id : String
  source : String
  eventId : String
  payloadHash : String
  deviceId : String
  topic : String
  timestamp : String
  sensorType : String
  deriving DecidableEq

def Event.sameEventId (e row : Event) : Bool := row.source == e.source && row.eventId == e.eventId

def Event.samePayloadHash (e row : Event) : Bool :=
  row.source == e.source && row.payloadHash == e.payloadHash

def findExisting (rows : List Event) (e : Event) : Option Event :=
  match if e.eventId ≠ "" then rows.find? e.sameEventId else none with
  | some existing => some existing
  | none => if e.payloadHash ≠ "" then rows.find? e.samePayloadHash else none

/-- The row violates a unique constraint of the event, or has its primary key. -/
def Event.conflicts (e row : Event) : Bool :=
  row.id == e.id || (e.eventId ≠ "" && e.sameEventId row) ||
    (e.payloadHash ≠ "" && e.samePayloadHash row)

/-- The common part of the two responses. -/
def serializeIngestEvent (e : Event) (duplicate : Bool) : List (String × Json) :=
  [("id", .str e.id), ("duplicate", .bool duplicate), ("device_id", .str e.deviceId),
    ("event_id", .str e.eventId), ("payload_hash", .str e.payloadHash), ("topic", .str e.topic),
    ("timestamp", .str e.timestamp)]

def serializeGpsIngestEvent (e : Event) (duplicate : Bool) : Json :=
  .obj (serializeIngestEvent e duplicate)

def serializeSensorIngestEvent (e : Event) (duplicate : Bool) : Json :=
  .obj (serializeIngestEvent e duplicate ++ [("sensor_type", .str e.sensorType)])

/-- What the model of a layer brings: its response, the validation of the fields and of the check
constraints, and the messages of a `ValidationError`. -/
structure Layer where
  serialize : Event → Bool → Json
  valid : Event → Bool
  messages : List Event → Event → Json

/-! ### Workers -/

/-- Where a worker is in `persist_idempotent_event`. -/
inductive Pc
  | findExisting
  | fullClean
  | save
  /-- In the handler of the `IntegrityError`. -/
  | findAgain
  | returned (body : Json) (status : ℕ)
  /-- The `IntegrityError` is raised again. -/
  | raised
  deriving DecidableEq

/-- The committed rows, and the workers. -/
structure State (W : Type) where
  rows : List Event
  pc : W → Pc

section Workers

variable {W : Type} [DecidableEq W] (layer : Layer) (events : W → Event)

/-- A worker moves on. -/
def State.goto (s : State W) (w : W) (pc : Pc) : State W :=
  { s with pc := Function.update s.pc w pc }

def step (s : State W) (w : W) : Option (State W) :=
  match s.pc w with
  | .findExisting =>
    match findExisting s.rows (events w) with
    | some existing => some (s.goto w (.returned (layer.serialize existing true) 200))
    | none => some (s.goto w .fullClean)
  | .fullClean =>
    if layer.valid (events w) && !s.rows.any (events w).conflicts then some (s.goto w .save)
    else
      let body := .obj [("detail", layer.messages s.rows (events w))]
      some (s.goto w (.returned body 400))
  | .save =>
    if s.rows.any (events w).conflicts then some (s.goto w .findAgain)
    else
      some { s.goto w (.returned (layer.serialize (events w) false) 201) with
        rows := s.rows ++ [events w] }
  | .findAgain =>
    match findExisting s.rows (events w) with
    | some existing => some (s.goto w (.returned (layer.serialize existing true) 200))
    | none => some (s.goto w .raised)
  | .returned _ _ => none
  | .raised => none

/-- Every worker is about to begin. -/
def State.initial (W : Type) (rows : List Event) : State W := ⟨rows, fun _ => .findExisting⟩

/-! ### The property -/

/-- The worker has stored its copy. -/
def Created (s : State W) (w : W) : Prop :=
  s.pc w = .returned (layer.serialize (events w) false) 201 ∧ events w ∈ s.rows

/-- The worker has returned the copy of `w'` as a duplicate. -/
def Duplicate (s : State W) (w w' : W) : Prop :=
  s.pc w = .returned (layer.serialize (events w') true) 200

/-- The worker is not finished. -/
def Running (s : State W) (w : W) : Prop :=
  s.pc w ∈ [Pc.findExisting, .fullClean, .save, .findAgain]

/-- The steps that a worker has left at most. -/
def Pc.stepsLeft : Pc → ℕ
  | .findExisting => 4
  | .fullClean => 3
  | .save => 2
  | .findAgain => 1
  | _ => 0

/-- One worker at most has stored its copy, which everyone else returns as a duplicate; a worker
that is not finished can take its next step, and if all are finished, one has stored its copy. -/
structure PersistedOnce (s : State W) : Prop where
  outcome : ∀ w, Running s w ∨ Created layer events s w ∨
    ∃ w', Created layer events s w' ∧ Duplicate layer events s w w'
  unique : ∀ w w', Created layer events s w → Created layer events s w' → w = w'
  progress : ∀ w, Running s w → ∃ t, step layer events s w = some t ∧
    (t.pc w).stepsLeft < (s.pc w).stepsLeft
  one : Nonempty W → (∀ w, ¬ Running s w) → ∃! w, Created layer events s w

/-- The workers have copies of one event: the same source, and the same identifier or, if there is
none, the same payload. They are instances of their own, and they are valid. -/
structure Copies : Prop where
  source : ∀ w w', (events w).source = (events w').source
  key : (∀ w w', (events w).eventId = (events w').eventId ∧ (events w).eventId ≠ "") ∨
    ∀ w w', (events w).payloadHash = (events w').payloadHash ∧ (events w).payloadHash ≠ ""
  id : ∀ w w', (events w).id = (events w').id → w = w'
  valid : ∀ w, layer.valid (events w) = true

/-- No copy is stored when a worker validates its own. -/
def Unstored (s : State W) (w : W) : Prop :=
  s.pc w = .fullClean → ∀ row ∈ s.rows, (events w).conflicts row = false

instance (s : State W) (w : W) : Decidable (Unstored events s w) :=
  inferInstanceAs (Decidable (_ → _))

/-! ### Look-ups -/

section Lookups

variable {rows : List Event} {e row : Event}

def Event.keyed (e row : Event) : Prop :=
  (e.eventId ≠ "" ∧ e.sameEventId row = true) ∨
    (e.payloadHash ≠ "" ∧ e.samePayloadHash row = true)

theorem conflicts_of_keyed (h : e.keyed row) : e.conflicts row = true := by
  rcases h with ⟨hne, hsame⟩ | ⟨hne, hsame⟩ <;> simp [Event.conflicts, hne, hsame]

theorem not_keyed_of_conflicts (h : e.conflicts row = false) : ¬ e.keyed row := fun hkeyed => by
  rw [conflicts_of_keyed hkeyed] at h
  cases h

theorem find?_sameEventId (h : ∀ row ∈ rows, ¬ e.keyed row) (hne : e.eventId ≠ "") :
    rows.find? e.sameEventId = none := by
  rw [List.find?_eq_none]
  exact fun row hrow hsame => h row hrow (.inl ⟨hne, hsame⟩)

theorem find?_samePayloadHash (h : ∀ row ∈ rows, ¬ e.keyed row) (hne : e.payloadHash ≠ "") :
    rows.find? e.samePayloadHash = none := by
  rw [List.find?_eq_none]
  exact fun row hrow hsame => h row hrow (.inr ⟨hne, hsame⟩)

theorem findExisting_eq_none (h : ∀ row ∈ rows, ¬ e.keyed row) : findExisting rows e = none := by
  have hid := find?_sameEventId h
  have hhash := find?_samePayloadHash h
  unfold findExisting
  by_cases h₁ : e.eventId = "" <;> by_cases h₂ : e.payloadHash = "" <;> simp [h₁, h₂, hid, hhash]

theorem findExisting_concat (h : ∀ row ∈ rows, ¬ e.keyed row) (hrow : e.keyed row) :
    findExisting (rows ++ [row]) e = some row := by
  unfold findExisting
  by_cases h₁ : e.eventId ≠ "" ∧ e.sameEventId row = true
  · simp [h₁.1, find?_sameEventId h h₁.1, h₁.2, List.find?_append]
  · obtain ⟨h₂, hsame⟩ := hrow.resolve_left h₁
    have hhash := find?_samePayloadHash h h₂
    by_cases h₃ : e.eventId = ""
    · simp [h₃, h₂, hhash, hsame, List.find?_append]
    · have hother : e.sameEventId row = false := by simpa [h₃] using h₁
      simp [h₃, find?_sameEventId h h₃, hother, h₂, hhash, hsame, List.find?_append]

end Lookups

/-! ### The two phases of a run -/

/-- Nobody has stored a copy yet, or one worker has and nobody else will. -/
inductive Phase (rows : List Event) (s : State W) : Prop
  | fresh (hrows : s.rows = rows) (hpc : ∀ w, s.pc w ∈ [Pc.findExisting, .fullClean, .save])
  | stored (w : W) (hrows : s.rows = rows ++ [events w])
      (hcreator : s.pc w = .returned (layer.serialize (events w) false) 201)
      (hothers : ∀ w', w' ≠ w → Running s w' ∨ Duplicate layer events s w' w)

section Phases

variable {layer events} {rows : List Event} {s t : State W} {w : W}

omit [DecidableEq W] in
theorem Copies.keyed (hcopies : Copies layer events) (w w' : W) :
    (events w).keyed (events w') := by
  have hsource : (events w').source = (events w).source := hcopies.source w' w
  rcases hcopies.key with hid | hhash
  · exact .inl ⟨(hid w w').2, by simp [Event.sameEventId, hsource, (hid w w').1]⟩
  · exact .inr ⟨(hhash w w').2, by simp [Event.samePayloadHash, hsource, (hhash w w').1]⟩

@[simp] theorem goto_self (pc : Pc) : (s.goto w pc).pc w = pc := Function.update_self ..

@[simp] theorem goto_of_ne {w' : W} (h : w' ≠ w) (pc : Pc) : (s.goto w pc).pc w' = s.pc w' :=
  Function.update_of_ne h ..

theorem Phase.fresh_goto (hrows : s.rows = rows)
    (hpc : ∀ w, s.pc w ∈ [Pc.findExisting, .fullClean, .save]) {pc : Pc}
    (h : pc ∈ [Pc.findExisting, .fullClean, .save]) : Phase layer events rows (s.goto w pc) := by
  refine .fresh hrows fun v => ?_
  by_cases hv : v = w
  · subst hv
    rwa [goto_self]
  · rw [goto_of_ne hv]
    exact hpc v

theorem Phase.stored_goto {w₀ : W} (hrows : s.rows = rows ++ [events w₀])
    (hcreator : s.pc w₀ = .returned (layer.serialize (events w₀) false) 201)
    (hothers : ∀ w', w' ≠ w₀ → Running s w' ∨ Duplicate layer events s w' w₀) (hw : w ≠ w₀)
    {pc : Pc} (h : pc ∈ [Pc.findExisting, .fullClean, .save, .findAgain] ∨
      pc = .returned (layer.serialize (events w₀) true) 200) :
    Phase layer events rows (s.goto w pc) := by
  refine .stored w₀ hrows ?_ fun v hv => ?_
  · rw [goto_of_ne (Ne.symm hw)]
    exact hcreator
  · by_cases hvw : v = w
    · subst hvw
      rwa [Running, Duplicate, goto_self]
    · rw [Running, Duplicate, goto_of_ne hvw]
      exact hothers v hv

/-- As long as nobody has stored a copy, nothing is found and the first insert succeeds. -/
theorem step_fresh (hcopies : Copies layer events)
    (hfresh : ∀ row ∈ rows, (events w).conflicts row = false) (hrows : s.rows = rows)
    (hpc : ∀ w, s.pc w ∈ [Pc.findExisting, .fullClean, .save])
    (next : step layer events s w = some t) : Phase layer events rows t := by
  have hnone := findExisting_eq_none fun row hrow => not_keyed_of_conflicts (hfresh row hrow)
  have hany : rows.any (events w).conflicts = false := by
    rw [List.any_eq_false]
    exact fun row hrow => by simp [hfresh row hrow]
  unfold step at next
  rw [hrows, hnone] at next
  cases hw : s.pc w with
  | findExisting =>
    rw [hw] at next
    cases next
    exact .fresh_goto hrows hpc (by decide)
  | fullClean =>
    rw [hw, hany, hcopies.valid w] at next
    cases next
    exact .fresh_goto hrows hpc (by decide)
  | save =>
    rw [hw, hany] at next
    cases next
    refine .stored w rfl (goto_self _) fun v hv => .inl ?_
    have hv' := hpc v
    simp only [Running, goto_of_ne hv]
    simp only [List.mem_cons, List.not_mem_nil, or_false] at hv' ⊢
    exact hv'.imp_right fun h => h.imp_right .inl
  | findAgain => exact absurd (hw ▸ hpc w) (by decide)
  | returned body status => exact absurd (hw ▸ hpc w) (by simp)
  | raised => exact absurd (hw ▸ hpc w) (by decide)

theorem step_stored {w₀ : W} (hcopies : Copies layer events)
    (hfresh : ∀ row ∈ rows, (events w).conflicts row = false)
    (hrows : s.rows = rows ++ [events w₀])
    (hcreator : s.pc w₀ = .returned (layer.serialize (events w₀) false) 201)
    (hothers : ∀ w', w' ≠ w₀ → Running s w' ∨ Duplicate layer events s w' w₀)
    (hok : Unstored events s w) (next : step layer events s w = some t) :
    Phase layer events rows t := by
  have hkeyed := hcopies.keyed w w₀
  have hfound := findExisting_concat
    (fun row hrow => not_keyed_of_conflicts (hfresh row hrow)) hkeyed
  have hconflict := conflicts_of_keyed hkeyed
  have hany : (rows ++ [events w₀]).any (events w).conflicts = true := by simp [hconflict]
  unfold step at next
  rw [hrows, hfound] at next
  -- a worker that takes a step is not the one that has stored its copy
  have hw₀ : s.pc w ≠ .returned (layer.serialize (events w₀) false) 201 := fun hpc => by
    rw [hpc] at next
    cases next
  have hw : w ≠ w₀ := fun h => hw₀ (h ▸ hcreator)
  cases hpc : s.pc w with
  | findExisting =>
    rw [hpc] at next
    cases next
    exact .stored_goto hrows hcreator hothers hw (.inr rfl)
  | fullClean =>
    have hfalse := hok hpc (events w₀) (by simp [hrows])
    rw [hconflict] at hfalse
    cases hfalse
  | save =>
    rw [hpc, hany] at next
    cases next
    exact .stored_goto hrows hcreator hothers hw (.inl (by decide))
  | findAgain =>
    rw [hpc] at next
    cases next
    exact .stored_goto hrows hcreator hothers hw (.inr rfl)
  | returned body status =>
    rw [hpc] at next
    cases next
  | raised =>
    rw [hpc] at next
    cases next

/-- A worker that is not finished takes one of at most four steps. -/
theorem step_of_running (h : Running s w) :
    ∃ t, step layer events s w = some t ∧ (t.pc w).stepsLeft < (s.pc w).stepsLeft := by
  simp only [Running, List.mem_cons, List.not_mem_nil, or_false] at h
  rcases h with h | h | h | h <;> simp only [step, h]
  · cases findExisting s.rows (events w) with
    | none => exact ⟨_, rfl, by simp [Pc.stepsLeft]⟩
    | some existing => exact ⟨_, rfl, by simp [Pc.stepsLeft]⟩
  · split_ifs <;> exact ⟨_, rfl, by simp [Pc.stepsLeft]⟩
  · split_ifs
    · exact ⟨_, rfl, by simp [Pc.stepsLeft]⟩
    · refine ⟨_, rfl, ?_⟩
      show ((s.goto w _).pc w).stepsLeft < _
      simp [Pc.stepsLeft]
  · cases findExisting s.rows (events w) with
    | none => exact ⟨_, rfl, by simp [Pc.stepsLeft]⟩
    | some existing => exact ⟨_, rfl, by simp [Pc.stepsLeft]⟩

theorem persistedOnce_of_phase (h : Phase layer events rows s) : PersistedOnce layer events s := by
  cases h with
  | fresh hrows hpc =>
    have hrunning : ∀ w, Running s w := fun w => by
      have hw := hpc w
      simp only [Running, List.mem_cons, List.not_mem_nil, or_false] at hw ⊢
      exact hw.imp_right fun h => h.imp_right .inl
    have hnone : ∀ w, ¬ Created layer events s w := fun w hw => by
      have := hpc w
      simp [hw.1] at this
    refine ⟨fun w => .inl (hrunning w), fun w _ hw => absurd hw (hnone w),
      fun _ hw => step_of_running hw, ?_⟩
    rintro ⟨w⟩ hdone
    exact absurd (hrunning w) (hdone w)
  | stored w₀ hrows hcreator hothers =>
    have hcreated : Created layer events s w₀ := ⟨hcreator, by simp [hrows]⟩
    have honly : ∀ w, Created layer events s w → w = w₀ := fun w hw => by
      by_contra hne
      rcases hothers w hne with hrunning | hduplicate
      · simp [Running, hw.1] at hrunning
      · have hstatus := hw.1.symm.trans hduplicate
        simp at hstatus
    refine ⟨fun w => ?_, fun w w' hw hw' => (honly w hw).trans (honly w' hw').symm,
      fun _ hw => step_of_running hw, fun _ _ => ⟨w₀, hcreated, honly⟩⟩
    by_cases hw : w = w₀
    · exact .inr (.inl (hw ▸ hcreated))
    · exact (hothers w hw).imp_right fun hduplicate => .inr ⟨w₀, hcreated, hduplicate⟩

end Phases

/-- **Copies of one event are persisted once.** Start with rows that do not conflict with the
copies, and let no worker validate its copy when another one is stored. Then in every state that is
reached every worker is still running, or has stored its copy and returned 201, or has returned 200
and the stored copy as a duplicate; at most one has stored its copy, a running worker can go on and
needs at most four steps, and one has stored its copy if all are finished. -/
theorem copies_persisted_once (rows : List Event) (hcopies : Copies layer events)
    (hfresh : ∀ w, ∀ row ∈ rows, (events w).conflicts row = false) {s : State W}
    (run : Reach (step layer events) (Unstored events) (.initial W rows) s) :
    PersistedOnce layer events s := by
  have hphase : Phase layer events rows s := by
    refine run.invariant (Phase layer events rows) (.fresh rfl fun w => by simp [State.initial]) ?_
    intro a w b _ hphase hok next
    cases hphase with
    | fresh hrows hpc => exact step_fresh hcopies (hfresh w) hrows hpc next
    | stored w₀ hrows hcreator hothers =>
      exact step_stored hcopies (hfresh w) hrows hcreator hothers hok next
  exact persistedOnce_of_phase hphase

end Workers

/-! ### Two workers -/

/-- The GPS layer, where it finds no other fault. -/
def gpsLayer : Layer := ⟨serializeGpsIngestEvent, fun _ => true, fun _ _ => .obj []⟩

def sensorLayer : Layer := { gpsLayer with serialize := serializeSensorIngestEvent }

/-- Two instances of one event. -/
def sampleEvents (w : Bool) : Event where
  id := if w then "1" else "2"
  source := "wildfi-mqtt"
  eventId := "e"
  payloadHash := "h"
  deviceId := "a"
  topic := "raw.sensor"
  timestamp := "2026-01-01T00:00:00+00:00"
  sensorType := "temperature"

theorem sampleEvents_copies {layer : Layer} (h : ∀ w, layer.valid (sampleEvents w) = true) :
    Copies layer sampleEvents :=
  ⟨by decide, .inl (by decide), by decide, h⟩

theorem copies_persisted_once_sample : ∃ s, PersistedOnce sensorLayer sampleEvents s ∧
    s.pc true = .returned (serializeSensorIngestEvent (sampleEvents true) false) 201 ∧
    s.pc false = .returned (serializeSensorIngestEvent (sampleEvents true) true) 200 := by
  have hrun : (runLabels (step sensorLayer sampleEvents) (Unstored sampleEvents)
      (.initial Bool []) [true, false, false, true, true, false, false]).any (fun s =>
        decide (s.pc true = .returned (serializeSensorIngestEvent (sampleEvents true) false) 201 ∧
          s.pc false =
            .returned (serializeSensorIngestEvent (sampleEvents true) true) 200)) = true := by
    decide +kernel
  obtain ⟨s, hs, hreached⟩ := (Option.any_eq_true _ _).1 hrun
  exact ⟨s, copies_persisted_once sensorLayer sampleEvents [] (sampleEvents_copies (by decide))
    (by simp) (reach_of_runLabels hs), of_decide_eq_true hreached⟩

/-- Both workers find nothing, one stores its copy, and then `full_clean` refuses the other one. -/
theorem stored_copy_refused : Copies gpsLayer sampleEvents ∧
    ∃ s, Reach (step gpsLayer sampleEvents) Free (.initial Bool []) s ∧
      s.pc true = .returned (serializeGpsIngestEvent (sampleEvents true) false) 201 ∧
      s.pc false = .returned (.obj [("detail", .obj [])]) 400 := by
  have hrun : (runLabels (step gpsLayer sampleEvents) Free (.initial Bool [])
      [true, false, true, true, false]).any (fun s =>
        decide (s.pc true = .returned (serializeGpsIngestEvent (sampleEvents true) false) 201 ∧
          s.pc false = .returned (.obj [("detail", .obj [])]) 400)) = true := by
    decide +kernel
  obtain ⟨s, hs, hreached⟩ := (Option.any_eq_true _ _).1 hrun
  exact ⟨sampleEvents_copies (by decide), s, reach_of_runLabels hs, of_decide_eq_true hreached⟩

end ArchiDeal.Ingest
