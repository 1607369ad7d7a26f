import ArchiDeal.Reconciler.Progress

/-!
# Generations

As long as the state object of a deployment is not removed, its generations are ordered and each
generation stands for one desired state: three properties of the record, each kept by every step.

* `AtLeast g`: the recorded generation is at least `g`;
* `Single g h`: it is above `g`, or it is `g` and the record holds a payload with the digest `h`, or
  it is `g` and the deployment is being deleted;
* `Dead`: the deployment is being deleted.
-/

namespace ArchiDeal.Reconciler

open Text Hosting Calls Json Transition

variable {settings : ControllerSettings} {py : FloatReader} {api : ApiServer}
  {d d' : DesiredDeployment} {deploymentId : String} {s t u : Cluster} {l : Label}
  {state : Resource} {desired : Option DesiredDeployment}

/-! ### What the checks ensure -/

theorem admitDeploy_eq_ok (h : admitDeploy settings py d state = .ok ()) :
    ∃ current, desiredFromState settings py state = .ok current ∧ isDead state = false ∧
      current.generation ≤ d.generation ∧ (d.generation = current.generation →
        sha256Json d.normalizedPayload = sha256Json current.normalizedPayload) := by
  simp only [admitDeploy, bind_eq_ok, ensure_eq_ok] at h
  obtain ⟨current, hcurrent, phase, hphase, _, hlive, _, hgeneration, hdigest⟩ := h
  refine ⟨current, hcurrent, ?_, by simpa using hgeneration, fun heq => ?_⟩
  · have hdead := isDead_of_phase (phaseOf_eq_ok hphase)
    rw [Bool.eq_false_iff, ne_eq, hdead]
    rintro (rfl | rfl) <;> simp at hlive
  · simpa [heq] using hdigest

theorem admitUndeploy_eq_ok (hdesired : ∀ d, desired = some d → WellFormed py d)
    (h : admitUndeploy settings py desired state = .ok d) :
    ∃ current, desiredFromState settings py state = .ok current ∧
      current.generation ≤ d.generation ∧ WellFormed py d := by
  obtain ⟨current, hcurrent, h⟩ := bind_eq_ok.1 h
  have hwell := wellFormed_of_desiredFromState hcurrent
  refine ⟨current, hcurrent, ?_⟩
  cases desired with
  | none =>
    cases h
    exact ⟨le_rfl, hwell.deletionDesired hwell.generation⟩
  | some d' =>
    simp only [bind_eq_ok, ensure_eq_ok] at h
    obtain ⟨_, hgeneration, _, -, h⟩ := h
    cases h
    exact ⟨of_decide_eq_true hgeneration, hwell.deletionDesired (hdesired d' rfl).generation⟩

theorem sha256Json_of_same (h : SameDesired d d') :
    sha256Json d'.normalizedPayload = sha256Json d.normalizedPayload := by
  rw [sha256Json, sha256Json, canonical, canonical, h.normalized]

/-! ### Three properties of the record -/

/-- The recorded generation is at least `g`. -/
def AtLeast (py : FloatReader) (g : ℤ) (st : Option Resource) : Prop :=
  ∃ r g', st = some r ∧ recordedGeneration py r = some g' ∧ g ≤ g'

/-- The generation `g` stands for the payload with the digest `h`, or is no longer in use. -/
def Single (settings : ControllerSettings) (py : FloatReader) (g : ℤ) (h : String)
    (st : Option Resource) : Prop :=
  ∃ r g', st = some r ∧ recordedGeneration py r = some g' ∧ (g < g' ∨ g' = g ∧
    (isDead r = true ∨
      ∀ d, desiredFromState settings py r = .ok d → sha256Json d.normalizedPayload = h))

/-- The deployment is being deleted. -/
def Dead (st : Option Resource) : Prop := ∃ r, st = some r ∧ isDead r = true

/-- The state object is not removed during the request. -/
def Label.Stays (settings : ControllerSettings) (deploymentId : String) (l : Label) : Prop :=
  l.During (· ≠ .vanish (stateKey settings deploymentId))

theorem stays_of_still (h : ∀ w ∈ l.weather, w.drifts = []) : l.Stays settings deploymentId := by
  intro w hw c hc
  rw [h w hw] at hc
  cases hc

/-- One step that does not remove the state object, for a property that says there is one. -/
theorem stays_step {Inv : Option Resource → Prop} {F : DesiredDeployment → Prop}
    (hnone : ¬ Inv none) (hstays : l.Stays settings deploymentId)
    (hstep : step settings py api deploymentId s l = some t)
    (hdeploy : ∀ d state, Inv (some state.record) → admitDeploy settings py d state = .ok () → F d)
    (hlive : ∀ d phase r, WellFormed py d → F d → IsRecord d phase r → Inv (some r))
    (hundeploy : ∀ desired state d, (∀ d, desired = some d → WellFormed py d) →
      Inv (some state.record) → admitUndeploy settings py desired state = .ok d →
      ∀ r, IsRecord d .deleting r → Inv (some r))
    (hs : Inv (stored s (stateKey settings deploymentId))) :
    Inv (stored t (stateKey settings deploymentId)) ∧
      (accepts settings py api deploymentId s l = true →
        ∀ d, l.request.desired settings py = some d → F d) :=
  record_step (fun _ => True) hstep hstays (fun _ _ _ _ => trivial) (fun h => absurd rfl h)
    (fun d state _ => hdeploy d state) (fun _ _ _ _ _ _ h => absurd h hnone)
    (fun d phase r hwell hF _ _ => hlive d phase r hwell hF) hundeploy
    (fun _ _ h => absurd h hnone) hs trivial

/-- A step keeps a lower bound of the recorded generation, and accepts no generation below it. -/
theorem atLeast_step {g : ℤ} (hstays : l.Stays settings deploymentId)
    (hstep : step settings py api deploymentId s l = some t)
    (hs : AtLeast py g (stored s (stateKey settings deploymentId))) :
    AtLeast py g (stored t (stateKey settings deploymentId)) ∧
      (accepts settings py api deploymentId s l = true →
        ∀ d, l.request.desired settings py = some d → g ≤ d.generation) := by
  refine stays_step (by rintro ⟨_, _, ⟨⟩, _⟩) hstays hstep ?_ ?_ ?_ hs
  · rintro d state ⟨_, g', ⟨⟩, hg', hle⟩ hadmits
    obtain ⟨current, hcurrent, -, hgeneration, -⟩ := admitDeploy_eq_ok hadmits
    cases hg'.symm.trans (generation_of_desiredFromState hcurrent)
    omega
  · intro d phase r hwell hle hr
    exact ⟨r, _, rfl, hr.recordedGeneration hwell, hle⟩
  · rintro desired state d hdesired ⟨_, g', ⟨⟩, hg', hle⟩ hadmits r hr
    obtain ⟨current, hcurrent, hgeneration, hwell⟩ := admitUndeploy_eq_ok hdesired hadmits
    cases hg'.symm.trans (generation_of_desiredFromState hcurrent)
    exact ⟨r, _, rfl, hr.recordedGeneration hwell, by omega⟩

theorem single_of_record {phase : Phase} {g : ℤ} {h : String} {r : Resource}
    (hwell : WellFormed py d)
    (hr : IsRecord d phase r) (hle : g ≤ d.generation)
    (heq : (d.generation : ℤ) = g → sha256Json d.normalizedPayload = h) :
    Single settings py g h (some r) := by
  refine ⟨r, _, rfl, hr.recordedGeneration hwell, ?_⟩
  rcases hle.lt_or_eq with hlt | hg
  · exact .inl hlt
  · refine .inr ⟨hg.symm, .inr fun d' hd' => ?_⟩
    rw [sha256Json_of_same (hr.same hwell hd')]
    exact heq hg.symm

/-- A step keeps what a generation stands for, and accepts it only with that payload. -/
theorem single_step {g : ℤ} {h : String} (hstays : l.Stays settings deploymentId)
    (hstep : step settings py api deploymentId s l = some t)
    (hs : Single settings py g h (stored s (stateKey settings deploymentId))) :
    Single settings py g h (stored t (stateKey settings deploymentId)) ∧
      (accepts settings py api deploymentId s l = true →
        ∀ d, l.request.desired settings py = some d → g ≤ d.generation ∧
          ((d.generation : ℤ) = g → sha256Json d.normalizedPayload = h)) := by
  refine stays_step (by rintro ⟨_, _, ⟨⟩, _⟩) hstays hstep ?_ ?_ ?_ hs
  · rintro d state ⟨_, g', ⟨⟩, hg', hcase⟩ hadmits
    obtain ⟨current, hcurrent, hlive, hgeneration, hdigest⟩ := admitDeploy_eq_ok hadmits
    cases hg'.symm.trans (generation_of_desiredFromState hcurrent)
    rcases hcase with hlt | ⟨heq, hdead | hpayload⟩
    · exact ⟨by omega, fun _ => by omega⟩
    · rw [show isDead state.record = isDead state from rfl, hlive] at hdead
      cases hdead
    · exact ⟨by omega, fun hg => (hdigest (by omega)).trans (hpayload current hcurrent)⟩
  · intro d phase r hwell hF hr
    exact single_of_record hwell hr hF.1 hF.2
  · rintro desired state d hdesired ⟨_, g', ⟨⟩, hg', hcase⟩ hadmits r hr
    obtain ⟨current, hcurrent, hgeneration, hwell⟩ := admitUndeploy_eq_ok hdesired hadmits
    cases hg'.symm.trans (generation_of_desiredFromState hcurrent)
    refine ⟨r, _, rfl, hr.recordedGeneration hwell, ?_⟩
    have hle : g ≤ d.generation := by omega
    rcases hle.lt_or_eq with hlt | heq
    · exact .inl hlt
    · exact .inr ⟨heq.symm, .inl (hr.isDead.2 (.inl rfl))⟩

/-- A step leaves a deployment that is being deleted as it is, and accepts nothing. -/
theorem dead_step (hstays : l.Stays settings deploymentId)
    (hstep : step settings py api deploymentId s l = some t)
    (hs : Dead (stored s (stateKey settings deploymentId))) :
    Dead (stored t (stateKey settings deploymentId)) ∧
      (accepts settings py api deploymentId s l = true →
        ∀ d, l.request.desired settings py = some d → False) := by
  refine stays_step (by rintro ⟨_, ⟨⟩, _⟩) hstays hstep ?_ ?_ ?_ hs
  · rintro d state ⟨_, ⟨⟩, hdead⟩ hadmits
    obtain ⟨current, -, hlive, -⟩ := admitDeploy_eq_ok hadmits
    rw [show isDead state.record = isDead state from rfl, hlive] at hdead
    cases hdead
  · rintro d phase r - ⟨⟩
  · rintro desired state d - - - r hr
    exact ⟨r, rfl, hr.isDead.2 (.inl rfl)⟩

/-! ### Whole runs -/

/-- The generation in the state object of a deployment. -/
def generationIn (settings : ControllerSettings) (py : FloatReader) (deploymentId : String)
    (s : Cluster) : Option ℤ :=
  (stored s (stateKey settings deploymentId)).bind (recordedGeneration py)

theorem atLeast_iff {g : ℤ} : AtLeast py g (stored s (stateKey settings deploymentId)) ↔
    ∃ g', generationIn settings py deploymentId s = some g' ∧ g ≤ g' := by
  simp only [AtLeast, generationIn, Option.bind_eq_some_iff]
  constructor
  · rintro ⟨r, g', hr, hg', hle⟩
    exact ⟨g', ⟨r, hr, hg'⟩, hle⟩
  · rintro ⟨g', ⟨r, hr, hg'⟩, hle⟩
    exact ⟨r, g', hr, hg', hle⟩

theorem reach_stays {Inv : Option Resource → Prop}
    (run : Reach (step settings py api deploymentId) (fun _ l => l.Stays settings deploymentId) s t)
    (hstep : ∀ {s l t}, l.Stays settings deploymentId →
      step settings py api deploymentId s l = some t →
      Inv (stored s (stateKey settings deploymentId)) →
      Inv (stored t (stateKey settings deploymentId)))
    (hs : Inv (stored s (stateKey settings deploymentId))) :
    Inv (stored t (stateKey settings deploymentId)) :=
  run.invariant (fun s => Inv (stored s (stateKey settings deploymentId))) hs
    fun _ ha hok hnext => hstep hok hnext ha

theorem record_of_accepts (hstays : l.Stays settings deploymentId)
    (hstep : step settings py api deploymentId s l = some t)
    (haccepts : accepts settings py api deploymentId s l = true)
    (hd : l.request.desired settings py = some d) :
    ∃ phase r, phase ≠ .deleting ∧ phase ≠ .deleted ∧ IsRecord d phase r ∧
      stored t (stateKey settings deploymentId) = some r := by
  have hl : l.request.deploys = true := by
    simp only [accepts, Bool.and_eq_true] at haccepts
    exact haccepts.1.1
  rcases deploy_step (fun _ => True) (fun _ => True)
    (fun d st => ∃ phase r, phase ≠ .deleting ∧ phase ≠ .deleted ∧ IsRecord d phase r ∧ st = some r)
    (fun _ => True) hl hstep hstays (fun _ _ _ _ => trivial) (fun _ => trivial)
    (fun _ h => absurd rfl h) (fun _ _ _ _ _ => trivial) (fun _ _ _ _ _ _ _ => trivial)
    (fun d phase r _ _ hdeleting hdeleted hr => ⟨phase, r, hdeleting, hdeleted, hr, rfl⟩)
    trivial trivial with ⟨hno, -⟩ | ⟨d', -, hd', -, -, hrecord⟩
  · rw [haccepts] at hno
    cases hno
  · rw [hd] at hd'
    cases hd'
    exact hrecord

/-- Two payloads with one digest are the same, or their encodings are a collision of SHA-256. -/
theorem same_or_collision (hd : WellFormed py d) (hd' : WellFormed py d')
    (h : sha256Json d.normalizedPayload = sha256Json d'.normalizedPayload) :
    d.normalizedPayload.sortKeys = d'.normalizedPayload.sortKeys ∨
      d.normalizedPayload.canonical ≠ d'.normalizedPayload.canonical ∧
        Sha256.hexdigest d.normalizedPayload.canonical =
          Sha256.hexdigest d'.normalizedPayload.canonical := by
  by_cases heq : d.normalizedPayload.canonical = d'.normalizedPayload.canonical
  · exact .inl (sortKeys_of_canonical hd.readable hd'.readable heq)
  · exact .inr ⟨heq, h⟩

/-- **Generations are ordered and single-valued.** Along a run in which the state object is not
removed, the recorded generation never decreases; an accepted request has at least the recorded
generation; two accepted requests with the same generation have the same normalized payload, up to
the order of keys, or their payloads are a collision of SHA-256; and once the deployment is being
deleted nothing is accepted. -/
theorem generations_ordered_and_single
    (run : Reach (step settings py api deploymentId) (fun _ l => l.Stays settings deploymentId)
      s t) :
    (∀ g, generationIn settings py deploymentId s = some g →
      ∃ g', generationIn settings py deploymentId t = some g' ∧ g ≤ g') ∧
    (∀ l d g, l.Stays settings deploymentId → accepts settings py api deploymentId t l = true →
      l.request.desired settings py = some d → generationIn settings py deploymentId t = some g →
      g ≤ d.generation) ∧
    (∀ s₀ l₀ d₀, l₀.Stays settings deploymentId →
      accepts settings py api deploymentId s₀ l₀ = true →
      l₀.request.desired settings py = some d₀ →
      step settings py api deploymentId s₀ l₀ = some s →
      ∀ l d, l.Stays settings deploymentId → accepts settings py api deploymentId t l = true →
        l.request.desired settings py = some d → d.generation = d₀.generation →
        d.normalizedPayload.sortKeys = d₀.normalizedPayload.sortKeys ∨
          d.normalizedPayload.canonical ≠ d₀.normalizedPayload.canonical ∧
            Sha256.hexdigest d.normalizedPayload.canonical =
              Sha256.hexdigest d₀.normalizedPayload.canonical) ∧
    (Dead (stored s (stateKey settings deploymentId)) →
      ∀ l, l.Stays settings deploymentId → accepts settings py api deploymentId t l = false) := by
  refine ⟨fun g hg => ?_, fun l d g hstays haccepts hd hg => ?_, ?_, fun hdead l hstays => ?_⟩
  · rw [← atLeast_iff]
    exact reach_stays run (fun hok hnext ha => (atLeast_step hok hnext ha).1)
      (atLeast_iff.2 ⟨g, hg, le_rfl⟩)
  · obtain ⟨u, -, hu, -⟩ := step_of_accepts haccepts
    exact (atLeast_step hstays hu (atLeast_iff.2 ⟨g, hg, le_rfl⟩)).2 haccepts d hd
  · intro s₀ l₀ d₀ hstays₀ haccepts₀ hd₀ hstep₀ l d hstays haccepts hd hgeneration
    obtain ⟨u, d', hu, hd', hwell⟩ := step_of_accepts haccepts
    obtain ⟨-, d₀', -, hd₀', hwell₀⟩ := step_of_accepts haccepts₀
    cases hd.symm.trans hd'
    cases hd₀.symm.trans hd₀'
    -- the digest of the first payload is recorded, and later ones are compared with it
    have hfirst : Single settings py d₀.generation (sha256Json d₀.normalizedPayload)
        (stored s (stateKey settings deploymentId)) := by
      obtain ⟨phase, r, -, -, hr, hstored⟩ := record_of_accepts hstays₀ hstep₀ haccepts₀ hd₀
      rw [hstored]
      exact single_of_record hwell₀ hr le_rfl fun _ => rfl
    have hsingle := reach_stays run (fun hok hnext ha => (single_step hok hnext ha).1) hfirst
    exact same_or_collision hwell hwell₀
      (((single_step hstays hu hsingle).2 haccepts d hd).2 (by rw [hgeneration]))
  · have hdead' := reach_stays run (fun hok hnext ha => (dead_step hok hnext ha).1) hdead
    by_contra haccepts
    rw [Bool.not_eq_false] at haccepts
    obtain ⟨u, d, hu, hd, -⟩ := step_of_accepts haccepts
    exact (dead_step hstays hu hdead').2 haccepts d hd

/-! ### A collision -/

theorem isSample_ofDigits (v : List.Vector (Fin 16) 65) : IsSample "web" (Sha256.ofDigits v) := by
  have hlength : (Sha256.ofDigits v).length = 65 := by
    rw [← String.length_toList, Sha256.ofDigits, String.toList_ofList, List.length_map,
      List.Vector.toList_length]
  have hdigit : ∀ i : Fin 16, Nat.digitChar i ≠ '\x00' := by decide
  refine isSample_web (by rw [hlength]; decide) ?_ ?_
  · rw [Sha256.ofDigits, String.toList_ofList]
    simp only [List.contains_eq_mem, List.mem_map, decide_eq_false_iff_not]
    rintro ⟨i, -, hi⟩
    exact hdigit i hi
  · have := utf8ByteSize_ofList_le (Sha256.ofDigits v).toList
    rw [String.ofList_toList, String.length_toList, hlength] at this
    omega

/-- The deployment that greets with a value. -/
def greetingDesired (value : String) : DesiredDeployment := sampleDesired 1 .running "web" value

/-- The `POST` of that deployment. -/
def greetingPost (value requestId : String) : Label := samplePost 1 value requestId []

theorem stays_greetingPost {value requestId : String} :
    (greetingPost value requestId).Stays sampleSettings sampleId :=
  stays_of_still fun _ hw => by cases hw

/-- The same `POST`, whose run stops right after it has written the state object. -/
def lostPost (value : String) : Label :=
  samplePost 1 value "request-1" (List.replicate 7 default ++ [⟨[], .lostAfter⟩])

/-- What the run that stops leaves. -/
def started (value : String) : Cluster :=
  (∅ : Cluster).apply sampleServer (stateKey sampleSettings sampleId)
    (stateConfigMap (greetingDesired value) .reconciling "request-1")

theorem normalizedPayload_greeting_injective {value value' : String}
    (h : (greetingDesired value).normalizedPayload.sortKeys =
      (greetingDesired value').normalizedPayload.sortKeys) : value = value' := by
  have heq : samplePayload 1 .running "web" value = samplePayload 1 .running "web" value' := h
  simpa [samplePayload, payloadWith] using heq

theorem serve_lostPost {value : String} (h : IsSample "web" value) :
    serve sampleSettings sampleReader sampleServer sampleId ∅ (lostPost value) =
      (.lost, (started value, [.apply (stateKey sampleSettings sampleId)
        (stateConfigMap (greetingDesired value) .reconciling "request-1")])) := by
  rw [serve, lostPost, samplePost, program_create (desiredBody_running h le_rfl (by decide))]
  rfl

/-- A record of one greeting admits another one with the same digest. -/
theorem admitDeploy_greeting {value value' : String} {phase : Phase} {r : Resource}
    (h : IsSample "web" value) (hr : IsRecord (greetingDesired value) phase r)
    (hdeleting : phase ≠ .deleting) (hdeleted : phase ≠ .deleted)
    (hdigest : sha256Json (greetingDesired value').normalizedPayload =
      sha256Json (greetingDesired value).normalizedPayload) :
    admitDeploy sampleSettings sampleReader (greetingDesired value') r = .ok () := by
  have hwell : WellFormed sampleReader (greetingDesired value) :=
    wellFormed_of_desiredBody (desiredBody_sample h le_rfl (by decide) fun _ => rfl)
  have hcurrent : desiredFromState sampleSettings sampleReader r = .ok (greetingDesired value) := by
    rw [hr.desiredFromState_eq hwell, greetingDesired, sortKeys_sample]
    exact parse_sample h le_rfl fun _ => rfl
  have hlive : (phase != .deleting && phase != .deleted) = true := by
    simp [hdeleting, hdeleted]
  have hgeneration : (greetingDesired value').generation = (greetingDesired value).generation := rfl
  simp only [admitDeploy, hcurrent, hr.phaseOf, ok_bind, hlive, ensure_true, hgeneration, le_refl,
    decide_true, hdigest, beq_self_eq_true, Bool.or_true]

theorem admissible_started {value value' : String} (h : IsSample "web" value)
    (hdigest : sha256Json (greetingDesired value').normalizedPayload =
      sha256Json (greetingDesired value).normalizedPayload) :
    Admissible sampleSettings sampleReader (greetingDesired value') (started value) := by
  refine ⟨rfl, fun r hr => ?_, fun p hp r hr => ?_⟩
  · rw [show (greetingDesired value').deploymentId = sampleId from rfl, started, content_apply,
      if_pos rfl] at hr
    cases hr
    exact ⟨rfl, admitDeploy_greeting h (isRecord_applied _ _) nofun nofun hdigest⟩
  · rw [started, content_apply, if_neg (ne_stateKey_of_mem_targets hp)] at hr
    cases hr

theorem generations_after_greeting : ∃ s, step sampleSettings sampleReader sampleServer sampleId ∅
      (greetingPost "hello" "request-1") = some s ∧
    ∀ l d g, l.Stays sampleSettings sampleId →
      accepts sampleSettings sampleReader sampleServer sampleId s l = true →
      l.request.desired sampleSettings sampleReader = some d →
      generationIn sampleSettings sampleReader sampleId s = some g → g ≤ d.generation := by
  have haccepts : accepts sampleSettings sampleReader sampleServer sampleId ∅
      (greetingPost "hello" "request-1") = true :=
    accepts_samplePost isSample_hello le_rfl (by decide) ⟨rfl, nofun, nofun⟩
  obtain ⟨s, -, hstep, -⟩ := step_of_accepts haccepts
  exact ⟨s, hstep,
    (generations_ordered_and_single (Reach.single stays_greetingPost hstep)).2.1⟩

/-- Two requests with one generation and different payloads are both accepted, when their payloads
collide. -/
theorem one_generation_two_payloads : ∃ (l₀ l : Label) (d₀ d : DesiredDeployment) (s : Cluster),
    l₀.Stays sampleSettings sampleId ∧ l.Stays sampleSettings sampleId ∧
    accepts sampleSettings sampleReader sampleServer sampleId ∅ l₀ = true ∧
    l₀.request.desired sampleSettings sampleReader = some d₀ ∧
    step sampleSettings sampleReader sampleServer sampleId ∅ l₀ = some s ∧
    accepts sampleSettings sampleReader sampleServer sampleId s l = true ∧
    l.request.desired sampleSettings sampleReader = some d ∧ d.generation = d₀.generation ∧
    d.normalizedPayload.sortKeys ≠ d₀.normalizedPayload.sortKeys := by
  obtain ⟨v₀, v, hne, hdigest⟩ := Sha256.exists_collision (α := List.Vector (Fin 16) 65)
    (by rw [card_vector, Fintype.card_fin]; exact Nat.pow_lt_pow_right (by decide) (by decide))
    fun v => (greetingDesired (Sha256.ofDigits v)).normalizedPayload.canonical
  have h₀ := isSample_ofDigits v₀
  have h := isSample_ofDigits v
  have hserve := serve_lostPost h₀
  have hon : (lostPost (Sha256.ofDigits v₀)).request.isOn sampleSettings sampleReader sampleId =
      true := by
    rw [lostPost, samplePost, Request.isOn, desiredBody_running h₀ le_rfl (by decide)]
    rfl
  refine ⟨lostPost (Sha256.ofDigits v₀), greetingPost (Sha256.ofDigits v) "request-2",
    greetingDesired (Sha256.ofDigits v₀), greetingDesired (Sha256.ofDigits v),
    started (Sha256.ofDigits v₀), stays_of_still ?_, stays_greetingPost, ?_,
    desired_samplePost h₀ le_rfl (by decide), ?_, ?_,
      desired_samplePost h le_rfl (by decide), rfl, ?_⟩
  · simp only [lostPost, samplePost, List.mem_append, List.mem_replicate, List.mem_singleton]
    rintro w (⟨-, rfl⟩ | rfl) <;> rfl
  · rw [accepts, hon, hserve]
    simp [lostPost, samplePost, Request.deploys, applies]
  · exact step_eq_some.2 ⟨hon, by rw [hserve]⟩
  · exact accepts_samplePost h le_rfl (by decide) (admissible_started h₀ hdigest.symm)
  · exact fun heq => hne (Sha256.ofDigits_injective (normalizedPayload_greeting_injective heq)).symm

end ArchiDeal.Reconciler
