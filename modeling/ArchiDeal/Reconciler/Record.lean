import ArchiDeal.Reconciler.Service
import ArchiDeal.Reconciler.Payload

/-!
# The recorded deployment

The state object of a deployment holds its phase and its normalized payload. This file says what is
read back from a state object that the controller has written (`IsRecord`), and which calls of a run
can change it.
-/

namespace ArchiDeal.Reconciler

open Text Hosting Calls Json

variable {settings : ControllerSettings} {py : FloatReader} {api : ApiServer}
  {collectable : Resource → Bool} {d d' : DesiredDeployment} {phase : Phase} {r r' : Resource}
  {s : Cluster} {k : Key}

/-! ### Reading the record -/

/-- The part of a state object that the controller reads. -/
def Resource.record (r : Resource) : Resource := { labels := r.labels, data := r.data }

/-- The record in a state object. -/
def stored (s : Cluster) (k : Key) : Option Resource := (s.content k).map Resource.record

def recordedPayload (py : FloatReader) (r : Resource) : Option Json :=
  (r.data.lookup "desired.json").bind fun text =>
    (loads (.dict py) text.toList.length text.toList).toOption

def recordedGeneration (py : FloatReader) (r : Resource) : Option ℤ :=
  match (recordedPayload py r).bind (·.get? "generation") with
  | some (.int n) => some n
  | _ => none

/-- Does the record say that the deployment is being deleted? -/
def isDead (r : Resource) : Bool :=
  r.data.lookup "phase" == some Phase.deleting.value ||
    r.data.lookup "phase" == some Phase.deleted.value

/-- A record that the controller has written for a deployment. -/
structure IsRecord (d : DesiredDeployment) (phase : Phase) (r : Resource) : Prop where
  owned : ownedBy d.deploymentId r = true
  phase_eq : r.data.lookup "phase" = some phase.value
  payload_eq : r.data.lookup "desired.json" = some (canonicalText d.normalizedPayload)

theorem payload_of_desiredFromState (h : desiredFromState settings py r = .ok d) :
    ∃ payload, recordedPayload py r = some payload ∧ readable py payload = true ∧
      Parsed settings true payload d := by
  unfold desiredFromState at h
  split at h
  · cases h
  rename_i text htext
  split at h
  · cases h
  rename_i payload hloads
  refine ⟨payload, ?_, readable_of_loads hloads, parsed_of_parse h⟩
  rw [recordedPayload, htext, Option.bind_some, hloads]
  rfl

theorem generation_of_desiredFromState (h : desiredFromState settings py r = .ok d) :
    recordedGeneration py r = some (d.generation : ℤ) := by
  obtain ⟨payload, hpayload, -, hparsed⟩ := payload_of_desiredFromState h
  simp only [recordedGeneration, hpayload, Option.bind_some, hparsed.generation]

theorem phaseOf_eq_ok (h : phaseOf r = .ok phase) :
    r.data.lookup "phase" = some phase.value := by
  unfold phaseOf at h
  split at h
  · rename_i p hp
    cases h
    obtain ⟨text, htext, hparse⟩ := Option.bind_eq_some_iff.1 hp
    rw [htext]
    unfold Phase.parse at hparse
    split_ifs at hparse with h₁ h₂ h₃ h₄ h₅ <;> cases hparse
    · rw [h₁]; rfl
    · rw [h₂]; rfl
    · rw [h₃]; rfl
    · rw [h₄]; rfl
    · rw [h₅]; rfl
  · cases h

theorem isDead_of_phase (h : r.data.lookup "phase" = some phase.value) :
    isDead r = true ↔ phase = .deleting ∨ phase = .deleted := by
  rw [isDead, h]
  cases phase <;> decide

namespace IsRecord

theorem phaseOf (h : IsRecord d phase r) : Reconciler.phaseOf r = .ok phase := by
  simp only [Reconciler.phaseOf, h.phase_eq, Option.bind_some, Phase.parse_value]

theorem record (h : IsRecord d phase r) : IsRecord d phase r.record := ⟨h.1, h.2, h.3⟩

theorem isDead (h : IsRecord d phase r) :
    Reconciler.isDead r = true ↔ phase = .deleting ∨ phase = .deleted :=
  isDead_of_phase h.phase_eq

theorem loads (h : IsRecord d phase r) (hd : WellFormed py d) :
    ∃ text, r.data.lookup "desired.json" = some text ∧
      Json.loads (.dict py) text.toList.length text.toList =
        .ok d.normalizedPayload.sortKeys := by
  refine ⟨_, h.payload_eq, ?_⟩
  rw [canonicalText, String.toList_ofList]
  exact loads_dumps (readable_sortKeys hd.readable) (nesting_le_length _)

/-- What is parsed from a record is parsed from the stored payload. -/
theorem desiredFromState_eq (h : IsRecord d phase r) (hd : WellFormed py d) :
    desiredFromState settings py r =
      parseDesiredDeployment settings true d.normalizedPayload.sortKeys := by
  obtain ⟨text, htext, hloads⟩ := h.loads hd
  simp only [desiredFromState, htext, hloads]

theorem recordedPayload (h : IsRecord d phase r) (hd : WellFormed py d) :
    Reconciler.recordedPayload py r = some d.normalizedPayload.sortKeys := by
  obtain ⟨text, htext, hloads⟩ := h.loads hd
  rw [Reconciler.recordedPayload, htext, Option.bind_some, hloads]
  rfl

theorem recordedGeneration (h : IsRecord d phase r) (hd : WellFormed py d) :
    Reconciler.recordedGeneration py r = some (d.generation : ℤ) := by
  have hget := hd.get?_stored "generation" (x := .int d.generation) (by rw [hd.normalized]; rfl)
  simp only [Reconciler.recordedGeneration, h.recordedPayload hd, Option.bind_some, hget,
    sortKeys_int]

/-- What is parsed from a record is the deployment it was written for. -/
theorem same (h : IsRecord d phase r) (hd : WellFormed py d)
    (hparse : desiredFromState settings py r = .ok d') : SameDesired d d' := by
  obtain ⟨payload, hpayload, -, hparsed⟩ := payload_of_desiredFromState hparse
  rw [h.recordedPayload hd] at hpayload
  cases hpayload
  exact hd.again hparsed

end IsRecord

theorem isRecord_applied (old : Option Resource) (requestId : String) :
    IsRecord d phase (api.applied old (stateConfigMap d phase requestId)) := by
  refine ⟨?_, api.data_applied _ _ _ _ rfl, api.data_applied _ _ _ _ rfl⟩
  have hmanaged : (commonLabels d).lookup managedByLabel = some managedBy := rfl
  have hdeployment : (commonLabels d).lookup deploymentLabel = some d.deploymentId := rfl
  simp only [ownedBy, api.labels_applied _ (stateConfigMap d phase requestId) _ _ hmanaged,
    api.labels_applied _ (stateConfigMap d phase requestId) _ _ hdeployment, beq_self_eq_true,
    Bool.and_self]

theorem WellFormed.deletionDesired {generation : ℕ} (h : WellFormed py d)
    (hg : Json.readable py (.int generation) = true) :
      WellFormed py (deletionDesired d generation) :=
  ⟨h.manifest, h.modules, h.slugs, hg, h.values, h.scaling, rfl⟩

theorem wellFormed_of_desiredFromState (h : desiredFromState settings py r = .ok d) :
    WellFormed py d := by
  obtain ⟨payload, -, hreadable, hparsed⟩ := payload_of_desiredFromState h
  exact hparsed.wellFormed hreadable

/-! ### Names -/

theorem getLast?_stateName (id : String) : (stateName id).toList.getLast? = some 'e' := by
  rw [stateName, String.toList_append, List.getLast?_append_of_ne_nil _ (by decide)]
  rfl

theorem getLast?_configName (id slug : String) :
    (componentName id slug "-cfg").toList.getLast? = some 'g' := by
  rw [componentName, String.toList_append, List.getLast?_append_of_ne_nil _ (by decide)]
  rfl

theorem configKey_ne_stateKey (id slug id' : String) :
    configKey settings id slug ≠ stateKey settings id' := by
  intro h
  have hname : componentName id slug "-cfg" = stateName id' := congrArg Key.name h
  have := getLast?_configName id slug
  rw [hname, getLast?_stateName] at this
  cases this

theorem componentKey_ne_stateKey {kind : Kind} (hkind : kind ≠ .configMap) (id slug id' : String) :
    componentKey settings id slug kind ≠ stateKey settings id' :=
  fun h => hkind (congrArg Key.kind h)

end ArchiDeal.Reconciler
