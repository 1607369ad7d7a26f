import ArchiDeal.Registry.Devices

/-!
# Updates of the device registry

What the calls of any number of clients do to the rows of `public.devices`, whatever the order of
their statements.

* `step_event`: what one statement can do;
* `Store.Consistent`: the invariant that ties the rows to the writes accepted so far;
* `registry_loses_no_update`: revisions count the accepted writes, no revision is written twice, a
  write stores what its payload names and touches nothing else, and a retired device stays as it is.
-/

namespace ArchiDeal.Registry

open Text Transition

variable {db : Postgres} {casefold : Char → List Char} {s s' t : Store}

/-! ### What a write may change -/

/-- Two rows agree in a writable field. -/
def Device.Agrees (d e : Device) : Field → Prop
  | .displayName => e.displayName = d.displayName
  | .kind => e.kind = d.kind
  | .status => e.status = d.status
  | .mqttTopic => e.mqttTopic = d.mqttTopic
  | .capabilities => e.capabilities = d.capabilities
  | .settings => e.settings = d.settings
  | .labels => e.labels = d.labels

/-- The columns that no write changes. -/
def Device.SameOrigin (d e : Device) : Prop :=
  e.deviceId = d.deviceId ∧ e.createdAt = d.createdAt ∧ e.createdBy = d.createdBy

section Columns

variable (db : Postgres) (casefold : Char → List Char)

/-- The column of a field holds the value of a payload, as it is validated and stored. -/
def Device.Holds (row : Device) (value : Json) : Field → Prop
  | .displayName => requiredString [("value", value)] "value" 160 = .ok row.displayName
  | .kind => validateKind value = .ok row.kind
  | .status => validateStatus value = .ok row.status
  | .mqttTopic => validateMqttTopic value = .ok row.mqttTopic
  | .capabilities => validateCapabilities value = .ok row.capabilities
  | .settings => ∃ object, validateObject casefold "settings" value = .ok object ∧
      db.jsonb object = some row.settings
  | .labels => ∃ object, validateLabels casefold value = .ok object ∧
      db.jsonb object = some row.labels

/-- The column has the default of a field that a creation does not name; two have to be named. -/
def Device.Defaults (row : Device) : Field → Prop
  | .displayName | .kind => False
  | .status => row.status = .provisioning
  | .mqttTopic => row.mqttTopic = none
  | .capabilities => row.capabilities = []
  | .settings => db.jsonb [] = some row.settings
  | .labels => db.jsonb [] = some row.labels

/-- The fields that the payload names hold their values, and the other ones are as `rest` says. -/
def Device.Takes (row : Device) (payload : Payload) (rest : Field → Prop) : Prop :=
  ∀ field : Field, (∀ value, payload.lookup field.name = some value →
      row.Holds db casefold value field) ∧
    (field.name ∉ payload.map Prod.fst → rest field)

/-- The row was last written by the actor at this time. -/
def Device.WrittenBy (row : Device) (actor : String) (now : ℕ) : Prop :=
  principalOf actor = .ok row.updatedBy ∧ row.updatedAt = now

/-- What an accepted call makes of the row with its identifier. -/
def Call.Writes (now : ℕ) : Call → Option Device → Device → Prop
  | .create payload actor, old, new =>
    old = none ∧ payload.lookup "device_id" = some (.str new.deviceId) ∧ new.revision = 1 ∧
      new.retiredAt = none ∧ new.Takes db casefold payload (new.Defaults db) ∧
      new.WrittenBy actor now ∧ new.createdBy = new.updatedBy ∧ new.createdAt = now
  | .update deviceId payload actor revision, old, new =>
    new.deviceId = deviceId ∧ ∃ d, old = some d ∧ d.retiredAt = none ∧ (d.revision : ℤ) = revision ∧
      new.revision = d.revision + 1 ∧ new.retiredAt = none ∧ d.SameOrigin new ∧
      new.Takes db casefold payload (d.Agrees new) ∧ new.WrittenBy actor now
  | .retire deviceId actor revision, old, new =>
    new.deviceId = deviceId ∧ ∃ d, old = some d ∧ d.retiredAt = none ∧ (d.revision : ℤ) = revision ∧
      new.revision = d.revision + 1 ∧ new.status = .retired ∧ new.retiredAt = some now ∧
      d.SameOrigin new ∧ (∀ field : Field, field ≠ .status → d.Agrees new field) ∧
      new.WrittenBy actor now
  | .get _, _, _ | .list _, _, _ => False

end Columns

/-- The identifier and the revision of an accepted write; a creation has revision 0. -/
def Event.written (e : Event) : Option (String × ℤ) :=
  match e.call, e.outcome with
  | .create _ _, .accepted row _ => some (row.deviceId, 0)
  | .update deviceId _ _ revision, .accepted _ _ => some (deviceId, revision)
  | .retire deviceId _ revision, .accepted _ _ => some (deviceId, revision)
  | _, _ => none

/-- The call returns the device. -/
def Event.Returns (e : Event) (deviceId : String) : Prop :=
  match e.outcome with
  | .accepted row _ => row.deviceId = deviceId
  | .returned rows _ => ∃ row ∈ rows, row.deviceId = deviceId
  | _ => False

/-- What one event does to the table; a first statement has a time. -/
def Event.Effect (db : Postgres) (casefold : Char → List Char) (now : Option ℕ) (e : Event)
    (devices devices' : Table String Device) : Prop :=
  match e.outcome with
  | .accepted row _ =>
    (∃ t, now = some t ∧ e.call.Writes db casefold t (devices.lookup row.deviceId) row) ∧
      ∀ id, devices'.lookup id = if id = row.deviceId then some row else devices.lookup id
  | .returned rows _ =>
    devices' = devices ∧ ∀ row ∈ rows, ∃ id, devices.lookup id = some row ∧ row.retiredAt = none
  | .missed _ _ | .refused _ => devices' = devices

/-! ### Payloads -/

/-- A validated field has the value that the validator returns, or none if it is not named. -/
theorem of_validated {α : Type} {payload : Payload} {field : Field}
    {validator : Json → Except RegistryError α} {o : Option α} {P : Json → Prop} {Q : Prop}
    (h : validated payload field validator = .ok o)
    (hsome : ∀ value a, validator value = .ok a → o = some a → P value) (hnone : o = none → Q) :
    (∀ value, payload.lookup field.name = some value → P value) ∧
      (field.name ∉ payload.map Prod.fst → Q) := by
  unfold validated at h
  split at h
  · next hlookup =>
    cases h
    refine ⟨fun value hvalue => ?_, fun _ => hnone rfl⟩
    rw [hlookup] at hvalue
    cases hvalue
  · next value hlookup =>
    obtain ⟨a, ha, rfl⟩ := map_eq_ok.1 h
    refine ⟨fun value' hvalue' => ?_, fun hmem => ?_⟩
    · cases hlookup.symm.trans hvalue'
      exact hsome value a ha rfl
    · have hno : payload.lookup field.name = none := by
        rw [List.lookup_eq_none_iff]
        intro entry hentry
        have hne : field.name ≠ entry.1 := fun he => hmem (he ▸ List.mem_map_of_mem hentry)
        simp [hne]
      rw [hno] at hlookup
      cases hlookup

/-- A column that takes a validated value and keeps its old one otherwise. -/
theorem of_getD {α : Type} {payload : Payload} {field : Field}
    {validator : Json → Except RegistryError α} {o : Option α} (old : α)
    (h : validated payload field validator = .ok o) :
    (∀ value, payload.lookup field.name = some value → validator value = .ok (o.getD old)) ∧
      (field.name ∉ payload.map Prod.fst → o.getD old = old) :=
  of_validated h (fun _ _ ha ho => by rw [ho]; exact ha) fun ho => by rw [ho]; rfl

/-- What `validateFields` has validated, field by field. -/
structure Validated (casefold : Char → List Char) (payload : Payload) (v : Values) : Prop where
  displayName : validated payload .displayName (fun value =>
    requiredString [("value", value)] "value" 160) = .ok v.displayName
  kind : validated payload .kind validateKind = .ok v.kind
  status : validated payload .status validateStatus = .ok v.status
  mqttTopic : validated payload .mqttTopic validateMqttTopic = .ok v.mqttTopic
  capabilities : validated payload .capabilities validateCapabilities = .ok v.capabilities
  settings : validated payload .settings (validateObject casefold "settings") = .ok v.settings
  labels : validated payload .labels (validateLabels casefold) = .ok v.labels

theorem validated_of_validateFields {payload : Payload} {permitted : List String} {v : Values}
    (h : validateFields casefold payload permitted = .ok v) : Validated casefold payload v := by
  unfold validateFields at h
  obtain ⟨-, -, h⟩ := bind_eq_ok.1 h
  obtain ⟨displayName, h₁, h⟩ := bind_eq_ok.1 h
  obtain ⟨kind, h₂, h⟩ := bind_eq_ok.1 h
  obtain ⟨status, h₃, h⟩ := bind_eq_ok.1 h
  obtain ⟨mqttTopic, h₄, h⟩ := bind_eq_ok.1 h
  obtain ⟨capabilities, h₅, h⟩ := bind_eq_ok.1 h
  obtain ⟨settings, h₆, h⟩ := bind_eq_ok.1 h
  obtain ⟨labels, h₇, h⟩ := bind_eq_ok.1 h
  cases h
  exact ⟨h₁, h₂, h₃, h₄, h₅, h₆, h₇⟩

theorem validated_of_patch {payload : Payload} {v : Values}
    (h : validatePatchPayload casefold payload = .ok v) : Validated casefold payload v := by
  obtain ⟨values, hvalues, h⟩ := bind_eq_ok.1 h
  obtain ⟨-, -, h⟩ := bind_eq_ok.1 h
  cases h
  exact validated_of_validateFields hvalues

theorem storedText_eq_some {a b : String} (h : storedText a = some b) : b = a := by
  unfold storedText at h
  split_ifs at h
  exact (Option.some.inj h).symm

/-- What an `UPDATE` makes of the row: it stores the fields that the payload names. -/
theorem takes_assign {payload : Payload} {v v' : Values} {p p' : String} {revision now : ℕ}
    {d : Device} (h : Validated casefold payload v) (hstored : storeValues db v p = some (v', p')) :
    (d.assign v' p' revision now).Takes db casefold payload
        (d.Agrees (d.assign v' p' revision now)) ∧ p' = p := by
  obtain ⟨displayName, h₁, hstored⟩ := Option.bind_eq_some_iff.1 hstored
  obtain ⟨settings, h₂, hstored⟩ := Option.bind_eq_some_iff.1 hstored
  obtain ⟨labels, h₃, hstored⟩ := Option.bind_eq_some_iff.1 hstored
  obtain ⟨principal, h₄, hstored⟩ := Option.bind_eq_some_iff.1 hstored
  cases hstored
  refine ⟨fun field => ?_, storedText_eq_some h₄⟩
  -- a column that is not assigned keeps its value
  cases field with
  | displayName =>
    refine of_validated h.displayName (fun value a ha ho => ?_) fun ho => ?_ <;> rw [ho] at h₁
    · obtain ⟨b, hb, rfl⟩ := Option.map_eq_some_iff.1 h₁
      exact ha.trans (congrArg _ (storedText_eq_some hb).symm)
    · cases h₁
      rfl
  | kind => exact of_getD d.kind h.kind
  | status => exact of_getD d.status h.status
  | mqttTopic => exact of_getD d.mqttTopic h.mqttTopic
  | capabilities => exact of_getD d.capabilities h.capabilities
  | settings =>
    refine of_validated h.settings (fun value a ha ho => ?_) fun ho => ?_ <;> rw [ho] at h₂
    · obtain ⟨b, hb, rfl⟩ := Option.map_eq_some_iff.1 h₂
      exact ⟨a, ha, hb⟩
    · cases h₂
      rfl
  | labels =>
    refine of_validated h.labels (fun value a ha ho => ?_) fun ho => ?_ <;> rw [ho] at h₃
    · obtain ⟨b, hb, rfl⟩ := Option.map_eq_some_iff.1 h₃
      exact ⟨a, ha, hb⟩
    · cases h₃
      rfl

theorem validateDeviceId_eq_ok {value : Json} {identifier : String}
    (h : validateDeviceId value = .ok identifier) : value = .str identifier := by
  unfold validateDeviceId at h
  split at h
  · split_ifs at h
    cases h
    rfl
  · cases h

theorem lookup_of_validateDeviceId {payload : Payload} {identifier : String}
    (h : validateDeviceId ((payload.lookup "device_id").getD .null) = .ok identifier) :
    payload.lookup "device_id" = some (.str identifier) := by
  have hvalue := validateDeviceId_eq_ok h
  cases hlookup : payload.lookup "device_id" with
  | none =>
    rw [hlookup] at hvalue
    cases hvalue
  | some value =>
    rw [hlookup] at hvalue
    exact congrArg some hvalue

/-- What a creation stores: the identifier and the fields of the payload, and the defaults. -/
theorem takes_newRow {payload : Payload} {v v' : NewDevice} {p p' : String} {now : ℕ}
    (h : validateCreatePayload casefold payload = .ok v)
    (hstored : storeNew db v p = some (v', p')) :
    payload.lookup "device_id" = some (.str v'.deviceId) ∧ p' = p ∧
      (newRow v' p' now).Takes db casefold payload ((newRow v' p' now).Defaults db) := by
  obtain ⟨values, hvalues, h⟩ := bind_eq_ok.1 h
  obtain ⟨deviceId, hid, h⟩ := bind_eq_ok.1 h
  have hv := validated_of_validateFields hvalues
  obtain ⟨displayName, h₁, hstored⟩ := Option.bind_eq_some_iff.1 hstored
  obtain ⟨settings, h₂, hstored⟩ := Option.bind_eq_some_iff.1 hstored
  obtain ⟨labels, h₃, hstored⟩ := Option.bind_eq_some_iff.1 hstored
  obtain ⟨principal, h₄, hstored⟩ := Option.bind_eq_some_iff.1 hstored
  cases hstored
  split at h
  · cases h
  · cases h
  next name kind hname hkind =>
    cases h
    refine ⟨lookup_of_validateDeviceId hid, storedText_eq_some h₄, fun field => ?_⟩
    cases field with
    -- the two fields that a create requires have no default
    | displayName =>
      refine of_validated hv.displayName (fun value a ha ho => ?_) fun ho => ?_ <;> rw [hname] at ho
      · cases ho
        exact ha.trans (congrArg _ (storedText_eq_some h₁).symm)
      · cases ho
    | kind =>
      refine of_validated hv.kind (fun value a ha ho => ?_) fun ho => ?_ <;> rw [hkind] at ho
      · cases ho
        exact ha
      · cases ho
    | status => exact of_getD _ hv.status
    | mqttTopic => exact of_getD _ hv.mqttTopic
    | capabilities => exact of_getD _ hv.capabilities
    | settings =>
      refine of_validated hv.settings (fun value a ha ho => ?_) fun ho => ?_ <;> rw [ho] at h₂
      · exact ⟨a, ha, h₂⟩
      · exact h₂
    | labels =>
      refine of_validated hv.labels (fun value a ha ho => ?_) fun ho => ?_ <;> rw [ho] at h₃
      · exact ⟨a, ha, h₃⟩
      · exact h₃

/-! ### Statements -/

section Statements

variable {devices : Table String Device} {deviceId principal : String} {revision : ℤ} {now : ℕ}
  {d row : Device}

theorem matching_eq_some (h : matching devices deviceId revision = some d) :
    devices.lookup deviceId = some d ∧ (d.revision : ℤ) = revision ∧ d.retiredAt = none := by
  obtain ⟨hlookup, hcond⟩ := Option.filter_eq_some_iff.1 h
  simpa [Device.live, hlookup] using hcond

theorem live_eq_some (h : (devices.lookup deviceId).filter Device.live = some d) :
    devices.lookup deviceId = some d ∧ d.retiredAt = none := by
  obtain ⟨hlookup, hcond⟩ := Option.filter_eq_some_iff.1 h
  simpa [Device.live, hlookup] using hcond

theorem nextRevision_eq_ok {n : ℕ} (h : nextRevision d = .ok n) : n = d.revision + 1 := by
  unfold nextRevision at h
  split_ifs at h
  cases h
  rfl

theorem insertDevice_some {payload : Payload} {values : NewDevice}
    (hvalues : validateCreatePayload casefold payload = .ok values)
    (h : insertDevice db devices values principal now = .ok (some row)) :
    devices.lookup row.deviceId = none ∧ payload.lookup "device_id" = some (.str row.deviceId) ∧
      row.revision = 1 ∧ row.retiredAt = none ∧
      row.Takes db casefold payload (row.Defaults db) ∧ row.updatedBy = principal ∧
      row.updatedAt = now ∧ row.createdBy = row.updatedBy ∧ row.createdAt = now := by
  unfold insertDevice at h
  split at h
  · cases h
  · next values' principal' hstored =>
    split_ifs at h with htaken
    · cases h
    · cases h
      obtain ⟨hid, hprincipal, htakes⟩ := takes_newRow hvalues hstored
      exact ⟨Option.not_isSome_iff_eq_none.1 htaken, hid, rfl, rfl, htakes, hprincipal,
        rfl, rfl, rfl⟩

/-- An accepted update found its revision, and changes the fields that the payload names. -/
theorem updateRow_some {payload : Payload} {values : Values}
    (hvalues : Validated casefold payload values)
    (h : updateRow db devices deviceId values principal revision now = .ok (some row)) :
    ∃ d, devices.lookup deviceId = some d ∧ d.retiredAt = none ∧ (d.revision : ℤ) = revision ∧
      row.revision = d.revision + 1 ∧ row.retiredAt = none ∧ d.SameOrigin row ∧
      row.Takes db casefold payload (d.Agrees row) ∧ row.updatedBy = principal ∧
      row.updatedAt = now := by
  unfold updateRow at h
  split at h
  · cases h
  · next values' principal' hstored =>
    split at h
    · cases h
    · next d hd =>
      obtain ⟨next, hnext, hrow⟩ := map_eq_ok.1 h
      obtain ⟨hlookup, hrevision, hlive⟩ := matching_eq_some hd
      cases hrow
      obtain ⟨htakes, hprincipal⟩ := takes_assign hvalues hstored
      exact ⟨d, hlookup, hlive, hrevision, nextRevision_eq_ok hnext, hlive, ⟨rfl, rfl, rfl⟩, htakes,
        hprincipal, rfl⟩

/-- An accepted retirement found its revision and changes no field but the status. -/
theorem retireRow_some
    (h : retireRow devices deviceId principal revision now = .ok (some row)) :
    ∃ d, devices.lookup deviceId = some d ∧ d.retiredAt = none ∧ (d.revision : ℤ) = revision ∧
      row.revision = d.revision + 1 ∧ row.status = .retired ∧ row.retiredAt = some now ∧
      d.SameOrigin row ∧ (∀ field : Field, field ≠ .status → d.Agrees row field) ∧
      row.updatedBy = principal ∧ row.updatedAt = now := by
  unfold retireRow at h
  split at h
  · cases h
  · next principal' hstored =>
    split at h
    · cases h
    · next d hd =>
      obtain ⟨next, hnext, hrow⟩ := map_eq_ok.1 h
      obtain ⟨hlookup, hrevision, hlive⟩ := matching_eq_some hd
      cases hrow
      refine ⟨d, hlookup, hlive, hrevision, nextRevision_eq_ok hnext, rfl, rfl, ⟨rfl, rfl, rfl⟩, ?_,
        storedText_eq_some hstored, rfl⟩
      intro field hfield
      cases field with
      | status => exact absurd rfl hfield
      | _ => rfl

/-! ### One step -/

/-- The rows are stored under their identifiers. -/
def Keyed (devices : Table String Device) : Prop :=
  ∀ id d, devices.lookup id = some d → d.deviceId = id

theorem selectPage_live {c : Clauses} (h : row ∈ selectPage db devices c) :
    ∃ id, devices.lookup id = some row ∧ row.retiredAt = none := by
  have hmem := List.mem_mergeSort.1 (List.mem_of_mem_take h)
  obtain ⟨hrow, hselect⟩ := List.mem_filter.1 hmem
  obtain ⟨⟨id, d⟩, hentry, rfl⟩ := List.mem_map.1 hrow
  refine ⟨id, Table.lookup_eq_some_iff.2 hentry, ?_⟩
  simp only [Clauses.select, Device.live, Bool.and_eq_true, Option.isNone_iff_eq_none] at hselect
  exact hselect.1.1.1.1

/-- What the outcome of a call says about the table that its statement was executed on. -/
def Outcome.Sound (db : Postgres) (casefold : Char → List Char) (now : ℕ) (call : Call)
    (devices : Table String Device) : Outcome → Prop
  | .accepted row _ => call.Writes db casefold now (devices.lookup row.deviceId) row
  | .returned rows _ => ∀ row ∈ rows, ∃ id, devices.lookup id = some row ∧ row.retiredAt = none
  | .missed _ _ | .refused _ => True

theorem sound_create {payload : Payload} {actor : String} {values : NewDevice} {reported : Bool}
    (hvalues : validateCreatePayload casefold payload = .ok values)
    (hactor : principalOf actor = .ok principal) :
    (Statement.execute db devices now reported (.insert values principal)).Sound db casefold now
      (.create payload actor) devices := by
  unfold Statement.execute
  dsimp only
  split
  · trivial
  · trivial
  · next row hrow =>
    obtain ⟨hfree, hid, hone, hlive, htakes, hby, hat, hcreated⟩ := insertDevice_some hvalues hrow
    exact ⟨hfree, hid, hone, hlive, htakes, ⟨hby ▸ hactor, hat⟩, hcreated⟩

theorem sound_update {payload : Payload} {actor : String} {values : Values} {reported : Bool}
    (hkeyed : Keyed devices) (hvalues : validatePatchPayload casefold payload = .ok values)
    (hactor : principalOf actor = .ok principal) :
    (Statement.execute db devices now reported (.update deviceId values principal revision)).Sound
      db casefold now (.update deviceId payload actor revision) devices := by
  unfold Statement.execute
  dsimp only
  split
  · trivial
  · trivial
  · next row hrow =>
    obtain ⟨d, hd, hlive, hrevision, hnext, hstill, horigin, htakes, hby, hat⟩ :=
      updateRow_some (validated_of_patch hvalues) hrow
    have hid : row.deviceId = deviceId := horigin.1.trans (hkeyed _ _ hd)
    exact ⟨hid, d, by rw [hid, hd], hlive, hrevision, hnext, hstill, horigin, htakes, hby ▸ hactor,
      hat⟩

theorem sound_retire {actor : String} {reported : Bool} (hkeyed : Keyed devices)
    (hactor : principalOf actor = .ok principal) :
    (Statement.execute db devices now reported (.retire deviceId principal revision)).Sound db
      casefold now (.retire deviceId actor revision) devices := by
  unfold Statement.execute
  dsimp only
  split
  · trivial
  · trivial
  · next row hrow =>
    obtain ⟨d, hd, hlive, hrevision, hnext, hretired, hat, horigin, hfields, hby, hupdated⟩ :=
      retireRow_some hrow
    have hid : row.deviceId = deviceId := horigin.1.trans (hkeyed _ _ hd)
    exact ⟨hid, d, by rw [hid, hd], hlive, hrevision, hnext, hretired, hat, horigin, hfields,
      hby ▸ hactor, hupdated⟩

theorem sound_get {id : String} {reported : Bool} :
    (Statement.execute db devices now reported (.select deviceId)).Sound db casefold now (.get id)
      devices := by
  unfold Statement.execute
  dsimp only
  split
  · trivial
  · next row hrow =>
    intro row' hrow'
    cases List.mem_singleton.1 hrow'
    exact ⟨deviceId, live_eq_some hrow⟩

theorem sound_list {clauses : Clauses} {listing : Listing} {reported : Bool} :
    (Statement.execute db devices now reported (.page clauses)).Sound db casefold now
      (.list listing) devices := by
  unfold Statement.execute
  dsimp only
  split_ifs
  · exact fun _ hrow => selectPage_live (List.mem_of_mem_take hrow)
  · trivial

/-- **What the first statement of a call can do.** -/
theorem sound_outcome (hkeyed : Keyed s.devices) (call : Call) (now : ℕ) (link : Link) :
    (s.outcome db casefold call now link).Sound db casefold now call s.devices := by
  unfold Store.outcome
  split
  · trivial
  · next statement hprepare =>
    split_ifs
    · trivial
    · cases call with
      | create payload actor =>
        obtain ⟨values, hvalues, h⟩ := bind_eq_ok.1 hprepare
        obtain ⟨principal, hactor, h⟩ := bind_eq_ok.1 h
        cases h
        exact sound_create hvalues hactor
      | update deviceId payload actor revision =>
        obtain ⟨identifier, hid, h⟩ := bind_eq_ok.1 hprepare
        obtain ⟨values, hvalues, h⟩ := bind_eq_ok.1 h
        obtain ⟨principal, hactor, h⟩ := bind_eq_ok.1 h
        cases h
        cases validateDeviceId_eq_ok hid
        exact sound_update hkeyed hvalues hactor
      | retire deviceId actor revision =>
        obtain ⟨identifier, hid, h⟩ := bind_eq_ok.1 hprepare
        obtain ⟨principal, hactor, h⟩ := bind_eq_ok.1 h
        cases h
        cases validateDeviceId_eq_ok hid
        exact sound_retire hkeyed hactor
      | get deviceId =>
        obtain ⟨identifier, -, h⟩ := bind_eq_ok.1 hprepare
        cases h
        exact sound_get
      | list listing =>
        obtain ⟨clauses, -, rfl⟩ := map_eq_ok.1 hprepare
        exact sound_list

end Statements

theorem effect_record {client now : ℕ} {call : Call} {o : Outcome}
    (h : o.Sound db casefold now call s.devices) :
    (⟨client, call, o⟩ : Event).Effect db casefold (some now) s.devices
      (s.record client call o).devices := by
  cases o with
  | accepted row reported => exact ⟨⟨now, rfl, h⟩, fun id => Table.lookup_insert_eq _ _ _⟩
  | returned rows cursor => exact ⟨rfl, h⟩
  | missed | refused => rfl

/-- The client of an action and the call that it makes or goes on with. -/
def Store.calling (s : Store) : Action → Option (ℕ × Call)
  | .call client call _ _ => some (client, call)
  | .classify client _ => (s.pending.lookup client).map fun p => (client, p.call)

/-- The time of a first statement. -/
def Action.now : Action → Option ℕ
  | .call _ _ now _ => some now
  | .classify _ _ => none

/-- **What one step can do**: it is a statement of a call, whose effect its outcome tells. -/
theorem step_event {a : Action} (hkeyed : Keyed s.devices) (h : s.step db casefold a = some s') :
    ∃ e : Event, s.calling a = some (e.client, e.call) ∧ s'.events = e :: s.events ∧
      e.Effect db casefold a.now s.devices s'.devices := by
  cases a with
  | call client call now link =>
    simp only [Store.step] at h
    split_ifs at h
    cases h
    exact ⟨_, rfl, rfl, effect_record (sound_outcome hkeyed call now link)⟩
  | classify client link =>
    obtain ⟨p, hp, rfl⟩ := Option.map_eq_some_iff.1 h
    exact ⟨_, by rw [Store.calling, hp]; rfl, rfl, rfl⟩

/-! ### The invariant -/

/-- The accepted writes so far, the last first. -/
def Store.writes (s : Store) : List (String × ℤ) := s.events.filterMap Event.written

/-- The accepted writes of one device. -/
def Store.writesOf (s : Store) (id : String) : List (String × ℤ) := s.writes.filter (·.1 = id)

/-- The revision of a device, 0 before it is created. -/
def Store.revision (s : Store) (id : String) : ℕ :=
  ((s.devices.lookup id).map Device.revision).getD 0

/-- The rows count the writes: the accepted writes of a device have the revisions below its own,
each once. -/
structure Store.Consistent (s : Store) : Prop where
  keyed : Keyed s.devices
  counted : ∀ id, (s.writesOf id).length = s.revision id
  below : ∀ w ∈ s.writes, w.2 < s.revision w.1
  nodup : s.writes.Nodup

theorem written_of_writes {e : Event} {row : Device} {reported : Bool} {old : Option Device}
    {now : ℕ}
    (ho : e.outcome = .accepted row reported) (hw : e.call.Writes db casefold now old row) :
    e.written = some (row.deviceId, (((old.map Device.revision).getD 0 : ℕ) : ℤ)) ∧
      row.revision = (old.map Device.revision).getD 0 + 1 := by
  obtain ⟨client, call, outcome⟩ := e
  cases ho
  cases call with
  | create payload actor =>
    obtain ⟨rfl, -, hone, -⟩ := hw
    exact ⟨rfl, hone⟩
  | update | retire =>
    obtain ⟨rfl, d, rfl, -, rfl, hnext, -⟩ := hw
    exact ⟨rfl, hnext⟩
  | get | list => exact hw.elim

theorem written_eq_none {e : Event} (h : ∀ row reported, e.outcome ≠ .accepted row reported) :
    e.written = none := by
  obtain ⟨client, call, outcome⟩ := e
  cases outcome with
  | accepted row reported => exact absurd rfl (h row reported)
  | _ => cases call <;> rfl

theorem consistent_empty : Store.empty.Consistent where
  keyed := nofun
  counted _ := rfl
  below := nofun
  nodup := .nil

theorem revision_of_accepted {row : Device}
    (h : ∀ id, s'.devices.lookup id = if id = row.deviceId then some row else s.devices.lookup id)
    (id : String) : s'.revision id = if id = row.deviceId then row.revision else s.revision id := by
  rw [Store.revision, h]
  split_ifs <;> rfl

theorem consistent_accepted {row : Device} (hs : s.Consistent)
    (hdevices : ∀ id, s'.devices.lookup id =
      if id = row.deviceId then some row else s.devices.lookup id)
    (hwrites : s'.writes = (row.deviceId, (s.revision row.deviceId : ℤ)) :: s.writes)
    (hrevision : row.revision = s.revision row.deviceId + 1) : s'.Consistent where
  keyed := by
    intro id d hd
    rw [hdevices] at hd
    split_ifs at hd with hid
    · cases hd
      exact hid.symm
    · exact hs.keyed id d hd
  counted := by
    intro id
    have hcount := hs.counted id
    rw [revision_of_accepted hdevices, Store.writesOf, hwrites]
    rw [Store.writesOf] at hcount
    by_cases hid : row.deviceId = id
    · rw [List.filter_cons_of_pos (by simpa using hid), if_pos hid.symm, List.length_cons, hcount,
        hrevision, hid]
    · rw [List.filter_cons_of_neg (by simpa using hid), if_neg (Ne.symm hid), hcount]
  below := by
    intro w hw
    rw [revision_of_accepted hdevices]
    rw [hwrites] at hw
    rcases List.mem_cons.1 hw with rfl | hw
    · rw [if_pos rfl, hrevision]
      omega
    · have hlt := hs.below w hw
      split_ifs with hid
      · rw [hid] at hlt
        omega
      · exact hlt
  nodup := by
    rw [hwrites, List.nodup_cons]
    -- the new write has the present revision, the older ones have lower revisions
    exact ⟨fun hmem => absurd (hs.below _ hmem) (lt_irrefl _), hs.nodup⟩

/-- **A step keeps the invariant.** -/
theorem consistent_step {a : Action} (hs : s.Consistent) (h : s.step db casefold a = some s') :
    s'.Consistent := by
  obtain ⟨e, -, hevents, heffect⟩ := step_event hs.keyed h
  have hsame : s'.devices = s.devices → e.written = none → s'.Consistent := by
    intro hdevices hwritten
    have hwrites : s'.writes = s.writes := by
      rw [Store.writes, hevents, List.filterMap_cons_none hwritten, Store.writes]
    constructor
    · rw [hdevices]; exact hs.keyed
    · intro id
      rw [Store.revision, hdevices, Store.writesOf, hwrites]
      exact hs.counted id
    · intro w hw
      rw [Store.revision, hdevices]
      exact hs.below w (hwrites ▸ hw)
    · rw [hwrites]; exact hs.nodup
  cases ho : e.outcome with
  | returned rows cursor =>
    rw [Event.Effect, ho] at heffect
    exact hsame heffect.1 (written_eq_none (by simp [ho]))
  | missed | refused =>
    rw [Event.Effect, ho] at heffect
    exact hsame heffect (written_eq_none (by simp [ho]))
  | accepted row reported =>
    rw [Event.Effect, ho] at heffect
    obtain ⟨⟨now, -, hwrite⟩, hlookup⟩ := heffect
    obtain ⟨hwritten, hrevision⟩ := written_of_writes ho hwrite
    refine consistent_accepted hs hlookup ?_ hrevision
    rw [Store.writes, hevents, List.filterMap_cons_some hwritten]
    rfl

/-- **The invariant holds in every run.** -/
theorem consistent_reach (run : Reach (Store.step db casefold) Free .empty s) : s.Consistent :=
  run.invariant Store.Consistent consistent_empty fun _ hs _ next => consistent_step hs next

/-! ### Retired devices -/

/-- The device is retired, with this row. -/
def Store.Retired (s : Store) (id : String) (d : Device) : Prop :=
  s.devices.lookup id = some d ∧ d.retiredAt.isSome

/-- The event neither writes the device nor returns it. -/
def Event.Avoids (e : Event) (id : String) : Prop :=
  (∀ w, e.written = some w → w.1 ≠ id) ∧ ¬ e.Returns id

theorem live_of_writes {call : Call} {d row : Device} {now : ℕ}
    (h : call.Writes db casefold now (some d) row) :
    d.retiredAt = none := by
  cases call with
  | create => exact nomatch h.1
  | update | retire =>
    obtain ⟨-, d', hd', hlive, -⟩ := h
    cases hd'
    exact hlive
  | get | list => exact h.elim

theorem retired_step {a : Action} {id : String} {d : Device} (hs : s.Consistent)
    (hd : s.Retired id d) (h : s.step db casefold a = some s') :
    s'.Retired id d ∧ ∃ e : Event, s'.events = e :: s.events ∧ e.Avoids id := by
  obtain ⟨e, -, hevents, heffect⟩ := step_event hs.keyed h
  obtain ⟨hlookup, hretired⟩ := hd
  cases ho : e.outcome with
  | missed | refused =>
    rw [Event.Effect, ho] at heffect
    refine ⟨⟨heffect ▸ hlookup, hretired⟩, e, hevents, ?_, by simp [Event.Returns, ho]⟩
    simp [written_eq_none (e := e) (by simp [ho])]
  | returned rows cursor =>
    rw [Event.Effect, ho] at heffect
    obtain ⟨hsame, hrows⟩ := heffect
    refine ⟨⟨hsame ▸ hlookup, hretired⟩, e, hevents, ?_, ?_⟩
    · simp [written_eq_none (e := e) (by simp [ho])]
    · rw [Event.Returns, ho]
      rintro ⟨row, hrow, rfl⟩
      obtain ⟨id, hid, hlive⟩ := hrows row hrow
      cases hs.keyed id row hid
      cases hid.symm.trans hlookup
      simp [hlive] at hretired
  | accepted row reported =>
    rw [Event.Effect, ho] at heffect
    obtain ⟨⟨now, -, hwrite⟩, hdevices⟩ := heffect
    have hne : row.deviceId ≠ id := by
      rintro rfl
      rw [hlookup] at hwrite
      simp [live_of_writes hwrite] at hretired
    refine ⟨⟨by rw [hdevices, if_neg hne.symm, hlookup], hretired⟩, e, hevents, ?_, ?_⟩
    · intro w hw
      cases (written_of_writes ho hwrite).1.symm.trans hw
      exact hne
    · rw [Event.Returns, ho]
      exact hne

theorem retired_reach {id : String} {d : Device} (hs : s.Consistent) (hd : s.Retired id d)
    (run : Reach (Store.step db casefold) Free s t) :
    t.Consistent ∧ t.Retired id d ∧ ∃ later, t.events = later ++ s.events ∧
      ∀ e ∈ later, e.Avoids id := by
  refine run.invariant (fun t => t.Consistent ∧ t.Retired id d ∧ ∃ later,
    t.events = later ++ s.events ∧ ∀ e ∈ later, e.Avoids id) ⟨hs, hd, [], rfl, by simp⟩ ?_
  rintro t a u - ⟨ht, hdt, later, hevents, havoid⟩ - next
  obtain ⟨hdu, e, he, hnew⟩ := retired_step ht hdt next
  refine ⟨consistent_step ht next, hdu, e :: later, by rw [he, hevents]; rfl, ?_⟩
  exact List.forall_mem_cons.2 ⟨hnew, havoid⟩

/-! ### Runs of the registry -/

/-- **The registry loses no update and resurrects no device.** In every run, a revision is the
number of the accepted writes of its device, no revision of a device is written twice, every step
has the effect that its outcome tells (an accepted write stores the values that its payload names,
its actor and its time, and keeps every other field), and a retired device keeps its row and is
neither written nor returned again. -/
theorem registry_loses_no_update (run : Reach (Store.step db casefold) Free .empty s) :
    (∀ id d, s.devices.lookup id = some d → d.revision = (s.writesOf id).length) ∧
    s.writes.Nodup ∧
    (∀ a s', s.step db casefold a = some s' → ∃ e : Event,
      s.calling a = some (e.client, e.call) ∧ s'.events = e :: s.events ∧
        e.Effect db casefold a.now s.devices s'.devices) ∧
    ∀ id d, s.Retired id d → ∀ t, Reach (Store.step db casefold) Free s t → t.Retired id d ∧
      ∃ later, t.events = later ++ s.events ∧ ∀ e ∈ later, e.Avoids id := by
  have hs := consistent_reach run
  refine ⟨?_, hs.nodup, fun a s' next => step_event hs.keyed next, ?_⟩
  · intro id d hd
    rw [hs.counted id, Store.revision, hd]
    rfl
  · intro id d hd t run'
    exact (retired_reach hs hd run').2

/-- A database that stores what it is given. -/
def plainPostgres : Postgres := ⟨some, fun _ _ => true, fun a b => decide (a ≤ b)⟩

/-- Two clients update one device at its first revision, and one of them retires it. -/
def contendedRun : List Action :=
  [.call 1 (.create [("device_id", .str "sensor-1"), ("display_name", .str "Sensor"),
      ("kind", .str "collar")] "alice") 1 .up,
   .call 1 (.update "sensor-1" [("status", .str "active")] "alice" 1) 2 .up,
   .call 2 (.update "sensor-1" [("kind", .str "tag")] "bob" 1) 3 .up,
   .call 1 (.retire "sensor-1" "alice" 2) 4 .up,
   .classify 2 .up,
   .call 2 (.get "sensor-1") 5 .up]

theorem registry_loses_no_update_sample : ∃ s d,
    runLabels (Store.step plainPostgres fun c => [c.toLower]) Free .empty contendedRun = some s ∧
    s.devices.lookup "sensor-1" = some d ∧ d.revision = 3 ∧ d.kind = "collar" ∧
    s.writes.Nodup ∧ d.revision = (s.writesOf "sensor-1").length := by
  have hrun : (runLabels (Store.step plainPostgres fun c => [c.toLower]) Free .empty
      contendedRun).map (fun s => (s.devices.lookup "sensor-1").map fun d => (d.revision, d.kind)) =
      some (some (3, "collar")) := by
    decide +kernel
  obtain ⟨s, hs, hd⟩ := Option.map_eq_some_iff.1 hrun
  obtain ⟨d, hlookup, hfields⟩ := Option.map_eq_some_iff.1 hd
  obtain ⟨hrevisions, hnodup, -⟩ := registry_loses_no_update (reach_of_runLabels hs)
  exact ⟨s, d, hs, hlookup, (Prod.mk.inj hfields).1, (Prod.mk.inj hfields).2, hnodup,
    hrevisions _ _ hlookup⟩

end ArchiDeal.Registry
