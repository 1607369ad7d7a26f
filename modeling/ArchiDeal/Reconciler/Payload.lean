import ArchiDeal.Reconciler.Contract

/-!
# What a payload says

A payload that `parseDesiredDeployment` accepts determines every field of the result (`Parsed`). The
controller stores the normalized payload with its keys sorted and parses it again on the next
request; `WellFormed.again` says that it reads back the same deployment: the same identifier,
generation, state, release and components, and a normalized payload that differs in the order of
keys only.
-/

namespace ArchiDeal.Reconciler

open Text Hosting Json

variable {settings : ControllerSettings} {allowAbsent : Bool} {v w : Json}
  {d d' : DesiredDeployment}
  {r : FloatReader}

/-! ### Fields -/

theorem object_eq_ok {value : Option Json} {label : String} (h : object value label = .ok v) :
    value = some v ∧ ∃ kvs, v = .obj kvs := by
  unfold object at h
  split at h
  · cases h
    exact ⟨rfl, _, rfl⟩
  · cases h

theorem positiveInt_eq_ok {value : Option Json} {label : String} {n : ℕ}
    (h : positiveInt value label = .ok n) : value = some (.int n) ∧ 1 ≤ n := by
  unfold positiveInt at h
  split at h
  · split_ifs at h with hpos
    cases h
    rename_i m
    have hm : (m.toNat : ℤ) = m := Int.toNat_of_nonneg (by omega)
    exact ⟨by rw [hm], by omega⟩
  · cases h

theorem stringField_eq_ok {value : Option Json} {p : String → Bool} {e : ControllerError}
    {s : String} (h : stringField value p e = .ok s) : value = some (.str s) ∧ p s = true := by
  unfold stringField at h
  split at h
  · split_ifs at h with hp
    cases h
    exact ⟨rfl, hp⟩
  · cases h

theorem validateDeploymentId_eq_ok {value : Option Json} {s : String}
    (h : validateDeploymentId value = .ok s) : value = some (.str s) ∧ isCanonicalUuid s =
      true := by
  unfold validateDeploymentId at h
  split at h
  · split_ifs at h with hp
    cases h
    exact ⟨rfl, hp⟩
  · cases h

theorem desiredStateField_eq_ok {value : Option Json} {state : DesiredState}
    (h : desiredStateField value allowAbsent = .ok state) :
    value = some (.str state.value) ∧ (state = .absent → allowAbsent = true) := by
  unfold desiredStateField at h
  split at h
  · split_ifs at h with hrunning hstopped habsent
    · cases h
      exact ⟨by rw [hrunning]; rfl, nofun⟩
    · cases h
      exact ⟨by rw [hstopped]; rfl, nofun⟩
    · cases h
      exact ⟨by rw [habsent.1]; rfl, fun _ => habsent.2⟩
  all_goals cases h

/-! ### Components -/

/-- The slug and the image of a component, as every result of the controller shows them. -/
def Component.identity (c : Component) : String × String := (c.slug, c.image)

/-- The slug and the image of a module of the manifest. -/
def moduleIdentity (raw : Json) : Option (String × String) :=
  match raw.get? "slug", raw.get? "image" with
  | some (.str slug), some (.str image) => some (slug, image)
  | _, _ => none

theorem parseProfile_identity {moduleId : ℕ} {slug image : String} {spec : Json}
    {c : ManifestComponent} (h : parseProfile moduleId slug image spec = .ok c) :
    c.slug = slug ∧ c.image = image := by
  simp only [parseProfile, bind_eq_ok] at h
  obtain ⟨-, -, -, -, port, -, -, -, health, -, resources, -, configuration, -, -, -, plain, -,
    secret, -, -, -, h⟩ := h
  split at h
  · cases h
    exact ⟨rfl, rfl⟩
  · cases h
  · cases h

theorem parseModule_eq_ok {parsed : List ManifestComponent} {raw : Json} {c : ManifestComponent}
    (h : parseModule settings parsed raw = .ok c) :
    moduleIdentity raw = some (c.slug, c.image) ∧ c.slug ∉ parsed.map (·.slug) := by
  simp only [parseModule, bind_eq_ok] at h
  obtain ⟨component, hcomponent, -, -, moduleId, -, slug, hslug, image, himage, -, -, spec, -, -, -,
    h⟩ := h
  obtain ⟨heq, -⟩ := object_eq_ok hcomponent
  cases heq
  obtain ⟨hslug, hfresh⟩ := stringField_eq_ok hslug
  obtain ⟨himage', -⟩ := stringField_eq_ok himage
  obtain ⟨rfl, rfl⟩ := parseProfile_identity h
  refine ⟨by simp only [moduleIdentity, hslug, himage'], ?_⟩
  simp only [Bool.and_eq_true, Bool.not_eq_true', List.any_eq_false, beq_iff_eq] at hfresh
  simpa using hfresh.1.2

theorem parseModules_eq_ok {parsed result : List ManifestComponent} {modules : List Json}
    (h : parseModules settings parsed modules = .ok result)
    (hparsed : (parsed.map (·.slug)).Nodup) :
    result.map (fun c => some (c.slug, c.image)) =
        parsed.map (fun c => some (c.slug, c.image)) ++ modules.map moduleIdentity ∧
      (result.map (·.slug)).Nodup := by
  induction modules generalizing parsed with
  | nil =>
    cases h
    exact ⟨by simp, hparsed⟩
  | cons raw rest ih =>
    obtain ⟨c, hc, h⟩ := bind_eq_ok.1 h
    obtain ⟨hidentity, hfresh⟩ := parseModule_eq_ok hc
    have hnodup : ((parsed ++ [c]).map (·.slug)).Nodup := by
      rw [List.map_append, List.nodup_append]
      refine ⟨hparsed, by simp, ?_⟩
      rintro a ha b hb rfl
      simp only [List.map_cons, List.map_nil, List.mem_singleton] at hb
      exact hfresh (hb ▸ ha)
    obtain ⟨hresult, hslugs⟩ := ih h hnodup
    exact ⟨by simp [hresult, hidentity], hslugs⟩

theorem parseManifest_eq_ok {manifest : Json} {parsed : List ManifestComponent}
    (h : parseManifest settings manifest = .ok parsed) :
    ∃ modules, manifest.get? "modules" = some (.arr modules) ∧
      parsed.map (fun c => some (c.slug, c.image)) = modules.map moduleIdentity ∧
      (parsed.map (·.slug)).Nodup := by
  simp only [parseManifest, bind_eq_ok] at h
  obtain ⟨-, -, -, -, application, -, -, -, -, -, -, -, -, -, -, -, h⟩ := h
  split at h
  · rename_i modules hmodules
    obtain ⟨-, -, h⟩ := bind_eq_ok.1 h
    obtain ⟨hidentities, hnodup⟩ := parseModules_eq_ok h List.nodup_nil
    exact ⟨modules, hmodules, by simpa using hidentities, hnodup⟩
  · cases h

theorem parseModule_slug {parsed : List ManifestComponent} {raw : Json} {c : ManifestComponent}
    (h : parseModule settings parsed raw = .ok c) : isComponentSlug c.slug = true := by
  simp only [parseModule, bind_eq_ok] at h
  obtain ⟨component, -, -, -, moduleId, -, slug, hslug, image, -, -, -, spec, -, -, -, h⟩ := h
  obtain ⟨-, hslug⟩ := stringField_eq_ok hslug
  rw [(parseProfile_identity h).1]
  simp only [Bool.and_eq_true] at hslug
  exact hslug.1.1

theorem parseModules_slugs {parsed result : List ManifestComponent} {modules : List Json}
    (h : parseModules settings parsed modules = .ok result)
    (hparsed : ∀ c ∈ parsed, isComponentSlug c.slug = true) :
    ∀ c ∈ result, isComponentSlug c.slug = true := by
  induction modules generalizing parsed with
  | nil =>
    cases h
    exact hparsed
  | cons raw rest ih =>
    obtain ⟨c, hc, h⟩ := bind_eq_ok.1 h
    refine ih h fun c' hc' => ?_
    rcases List.mem_append.1 hc' with hc' | hc'
    · exact hparsed c' hc'
    · rw [List.mem_singleton.1 hc']
      exact parseModule_slug hc

theorem parseManifest_slugs {manifest : Json} {parsed : List ManifestComponent}
    (h : parseManifest settings manifest = .ok parsed) :
    ∀ c ∈ parsed, isComponentSlug c.slug = true := by
  simp only [parseManifest, bind_eq_ok] at h
  obtain ⟨-, -, -, -, application, -, -, -, -, -, -, -, -, -, -, -, h⟩ := h
  split at h
  · obtain ⟨-, -, h⟩ := bind_eq_ok.1 h
    exact parseModules_slugs h (by simp)
  · cases h

/-! ### Values -/

/-- The entries of a component in a field of the payload. -/
def entriesOf (v : Json) (field slug : String) : List (String × Json) :=
  match (v.get? field).bind (·.get? slug) with
  | some (.obj entries) => entries
  | _ => []

theorem validateEntries_eq_ok {allowed : List String} {slug : String} {secret : Bool} {total : ℕ}
    {entries : List (String × Json)} {kvs : List (String × String)}
    (h : validateEntries allowed slug secret total entries = .ok kvs) :
    entries = kvs.map fun p => (p.1, .str p.2) := by
  induction entries generalizing total kvs with
  | nil =>
    cases h
    rfl
  | cons p entries ih =>
    obtain ⟨key, value⟩ := p
    simp only [validateEntries, bind_eq_ok] at h
    obtain ⟨-, -, text, htext, -, -, -, -, more, hmore, h⟩ := h
    cases h
    obtain ⟨htext, -⟩ := stringField_eq_ok htext
    rw [List.map_cons, ih hmore, Option.some.inj htext]

theorem validateValues_eq_ok {values : List (String × Json)} {allowed : List String}
    {slug : String} {secret : Bool} {kvs : List (String × String)}
    (h : validateValues values allowed slug secret = .ok kvs) :
    values = kvs.map fun p => (p.1, .str p.2) := by
  obtain ⟨-, -, h⟩ := bind_eq_ok.1 h
  exact validateEntries_eq_ok h

theorem lookup_of_mapM {α β : Type} {f : String × α → Except ControllerError (String × β)}
    {kvs : List (String × α)} {lws : List (String × β)} (hm : kvs.mapM f = .ok lws)
    (hf : ∀ p q, f p = .ok q → q.1 = p.1) (k : String) :
    (∀ b, lws.lookup k = some b → ∃ a, kvs.lookup k = some a ∧ f (k, a) = .ok (k, b)) ∧
      (lws.lookup k = none → kvs.lookup k = none) := by
  induction kvs generalizing lws with
  | nil =>
    cases hm
    exact ⟨nofun, fun _ => rfl⟩
  | cons p kvs ih =>
    obtain ⟨l, a⟩ := p
    rw [List.mapM_cons] at hm
    obtain ⟨⟨l', b⟩, hp, hm⟩ := bind_eq_ok.1 hm
    obtain ⟨rest, hrest, hm⟩ := bind_eq_ok.1 hm
    cases hm
    obtain rfl : l' = l := hf _ _ hp
    rw [List.lookup_cons, List.lookup_cons]
    cases hk : k == l' with
    | true =>
      obtain rfl := beq_iff_eq.1 hk
      exact ⟨by rintro b' ⟨⟩; exact ⟨a, rfl, hp⟩, nofun⟩
    | false => exact ih hrest

theorem componentMapping_eq_ok {field label : String}
    {mapping : List (String × List (String × Json))}
    (h : componentMapping (v.get? field) label = .ok mapping) (slug : String) :
    (mapping.lookup slug).getD [] = entriesOf v field slug := by
  simp only [componentMapping, bind_eq_ok] at h
  obtain ⟨m, hm, h⟩ := h
  obtain ⟨hm, kvs, rfl⟩ := object_eq_ok hm
  simp only at h
  obtain ⟨hsome, hnone⟩ := lookup_of_mapM h (by
    rintro ⟨k, x⟩ q hq
    obtain ⟨-, -, hq⟩ := bind_eq_ok.1 hq
    split at hq
    · cases hq
      rfl
    · cases hq) slug
  simp only [entriesOf, hm, Option.bind_some, get?_obj]
  cases hlookup : mapping.lookup slug with
  | none => rw [hnone hlookup]; rfl
  | some entries =>
    obtain ⟨x, hx, hf⟩ := hsome entries hlookup
    obtain ⟨-, -, hf⟩ := bind_eq_ok.1 hf
    split at hf
    · cases hf
      rename_i heq
      simp only at heq
      rw [hx, heq]
      rfl
    · cases hf

/-! ### The whole payload -/

/-- What an accepted payload says. -/
structure Parsed (settings : ControllerSettings) (allowAbsent : Bool) (v : Json)
    (d : DesiredDeployment) : Prop where
  deploymentId : v.get? "deployment_id" = some (.str d.deploymentId)
  canonical : isCanonicalUuid d.deploymentId = true
  environment : v.get? "environment" = some (.str d.environment)
  managed : d.environment = settings.environment
  generation : v.get? "generation" = some (.int d.generation)
  positive : 1 ≤ d.generation
  state : v.get? "desired_state" = some (.str d.desiredState.value)
  absent : d.desiredState = .absent → allowAbsent = true
  release : ∃ release, v.get? "release" = some release ∧
    release.get? "digest" = some (.str d.releaseDigest) ∧ release.get? "manifest" = some d.manifest
  digest : sha256Json d.manifest = d.releaseDigest
  modules : ∃ modules, d.manifest.get? "modules" = some (.arr modules) ∧
    d.components.map (fun c => some c.identity) = modules.map moduleIdentity
  slugs : (d.components.map (·.slug)).Nodup
  configuration : ∀ c ∈ d.components, entriesOf v "configuration" c.slug =
    c.configuration.map fun p => (p.1, .str p.2)
  secretRefs : ∀ c ∈ d.components, entriesOf v "secret_refs" c.slug =
    c.secretRefs.map fun p => (p.1, .str p.2)
  scaling : ∀ c ∈ d.components, scalingPolicy ((v.get? "scaling").bind (·.get? c.slug)) c.slug
    settings.maxReplicas = .ok c.scaling
  normalized : d.normalizedPayload = normalizedPayload d.deploymentId d.environment d.generation
    d.desiredState d.releaseDigest d.manifest d.components

theorem desiredComponents_eq_ok {configuration secretRefs : List (String × List (String × Json))}
    {scaling : Json} {parsed : List ManifestComponent} {components : List Component}
    (h : parsed.mapM (desiredComponent settings configuration secretRefs scaling) =
      .ok components) :
    components.map (·.toManifestComponent) = parsed ∧ ∀ c ∈ components,
      (configuration.lookup c.slug).getD [] = c.configuration.map (fun p => (p.1, .str p.2)) ∧
      (secretRefs.lookup c.slug).getD [] = c.secretRefs.map (fun p => (p.1, .str p.2)) ∧
      scalingPolicy (scaling.get? c.slug) c.slug settings.maxReplicas = .ok c.scaling := by
  have hall := forall₂_of_mapM h
  clear h
  induction hall with
  | nil => exact ⟨rfl, nofun⟩
  | cons hc _ ih =>
    simp only [desiredComponent, bind_eq_ok] at hc
    obtain ⟨plain, hplain, secret, hsecret, policy, hpolicy, hc⟩ := hc
    cases hc
    refine ⟨by rw [List.map_cons, ih.1], List.forall_mem_cons.2 ⟨?_, ih.2⟩⟩
    exact ⟨validateValues_eq_ok hplain, validateValues_eq_ok hsecret, hpolicy⟩

/-- **An accepted payload determines the deployment.** -/
theorem parsed_of_parse (h : parseDesiredDeployment settings allowAbsent v = .ok d) :
    Parsed settings allowAbsent v d := by
  simp only [parseDesiredDeployment, bind_eq_ok] at h
  obtain ⟨payload, hpayload, -, -, deploymentId, hid, environment, henv, generation, hgen, state,
    hstate, release, hrelease, -, -, manifest, hmanifest, digest, hdigest, _, hmatch, parsed,
    hparsed, configuration, hconfiguration, secretRefs, hsecretRefs, scaling, hscaling, -, -, -, -,
    -, -, -, -, components, hcomponents, h⟩ := h
  cases h
  obtain ⟨heq, -⟩ := object_eq_ok hpayload
  cases heq
  obtain ⟨hid, hcanonical⟩ := validateDeploymentId_eq_ok hid
  obtain ⟨henv, hmanaged⟩ := stringField_eq_ok henv
  obtain ⟨hgen, hpos⟩ := positiveInt_eq_ok hgen
  obtain ⟨hstate, habsent⟩ := desiredStateField_eq_ok hstate
  obtain ⟨hrelease, -⟩ := object_eq_ok hrelease
  obtain ⟨hmanifest, -⟩ := object_eq_ok hmanifest
  obtain ⟨hdigest, -⟩ := stringField_eq_ok hdigest
  obtain ⟨hscaling, -⟩ := object_eq_ok hscaling
  obtain ⟨modules, hmodules, hidentities, hnodup⟩ := parseManifest_eq_ok hparsed
  obtain ⟨hmap, hvalues⟩ := desiredComponents_eq_ok hcomponents
  subst hmap
  rw [List.map_map] at hidentities hnodup
  exact {
    deploymentId := hid
    canonical := hcanonical
    environment := henv
    managed := beq_iff_eq.1 hmanaged
    generation := hgen
    positive := hpos
    state := hstate
    absent := habsent
    release := ⟨release, hrelease, hdigest, hmanifest⟩
    digest := beq_iff_eq.1 (ensure_eq_ok.1 hmatch)
    modules := ⟨modules, hmodules, hidentities⟩
    slugs := hnodup
    configuration := fun c hc =>
      (componentMapping_eq_ok hconfiguration c.slug).symm.trans (hvalues c hc).1
    secretRefs := fun c hc =>
      (componentMapping_eq_ok hsecretRefs c.slug).symm.trans (hvalues c hc).2.1
    scaling := fun c hc => by
      rw [hscaling, Option.bind_some]
      exact (hvalues c hc).2.2
    normalized := rfl }

/-! ### Scaling policies -/

/-- The object `w` has the fields of a policy. -/
def WrittenIn (w : Json) : ScalingPolicy → Prop
  | .fixed replicas =>
    w.get? "mode" = some (.str "fixed") ∧ w.get? "replicas" = some (.int replicas)
  | .autoscale minimum maximum target =>
    w.get? "mode" = some (.str "autoscale") ∧ w.get? "min_replicas" = some (.int minimum) ∧
      w.get? "max_replicas" = some (.int maximum) ∧
      w.get? "target_cpu_utilization" = some (.int target)

theorem eq_some_of_any_eqStr {x : Option Json} {s : String} (h : x.any (·.eqStr s) = true) :
    x = some (.str s) := by
  cases x with
  | none => cases h
  | some x =>
    cases x with
    | str t => rw [beq_iff_eq.1 h]
    | _ => cases h

theorem scalingPolicy_eq_ok {value : Option Json} {slug : String} {maximum : ℕ}
    {policy : ScalingPolicy} (h : scalingPolicy value slug maximum = .ok policy) :
    ∃ w, value = some w ∧ WrittenIn w policy := by
  obtain ⟨w, hw, hpolicy⟩ := bind_eq_ok.1 h
  obtain ⟨hvalue, -⟩ := object_eq_ok hw
  refine ⟨w, hvalue, ?_⟩
  split_ifs at hpolicy with hfixed hauto
  · simp only [bind_eq_ok] at hpolicy
    obtain ⟨-, -, replicas, hreplicas, -, -, hpolicy⟩ := hpolicy
    cases hpolicy
    exact ⟨eq_some_of_any_eqStr hfixed, (positiveInt_eq_ok hreplicas).1⟩
  · simp only [bind_eq_ok] at hpolicy
    obtain ⟨-, -, minimum, hmin, maximum, hmax, target, htarget, -, -, hpolicy⟩ := hpolicy
    cases hpolicy
    exact ⟨eq_some_of_any_eqStr hauto, (positiveInt_eq_ok hmin).1, (positiveInt_eq_ok hmax).1,
      (positiveInt_eq_ok htarget).1⟩

theorem WrittenIn.unique {p q : ScalingPolicy} (hp : WrittenIn w p) (hq : WrittenIn w q) :
    p = q := by
  cases p <;> cases q <;> simp_all [WrittenIn]

theorem WrittenIn.sortKeys {p : ScalingPolicy} (hw : w.keys.Nodup) (h : WrittenIn w p) :
    WrittenIn w.sortKeys p := by
  cases p with
  | fixed replicas =>
    obtain ⟨hmode, hreplicas⟩ := h
    simp [WrittenIn, get?_sortKeys hw, hmode, hreplicas, Json.sortKeys]
  | autoscale minimum maximum target =>
    obtain ⟨hmode, hmin, hmax, htarget⟩ := h
    simp [WrittenIn, get?_sortKeys hw, hmode, hmin, hmax, htarget, Json.sortKeys]

theorem writtenIn_toJson (p : ScalingPolicy) : WrittenIn p.toJson p ∧ p.toJson.keys.Nodup := by
  cases p <;> simp [WrittenIn, ScalingPolicy.toJson, keys, List.lookup_cons]

theorem readable_policy {p : ScalingPolicy} (hw : readable r w = true) (h : WrittenIn w p) :
    readable r p.toJson = true := by
  have hfield : ∀ {k n}, w.get? k = some (.int n) → readable r (.int n) = true := readable_get? hw
  cases p with
  | fixed replicas =>
    obtain ⟨-, hreplicas⟩ := h
    simp only [ScalingPolicy.toJson, readable_obj, readableMembers, hfield hreplicas]
    simp [readable]
  | autoscale minimum maximum target =>
    obtain ⟨-, hmin, hmax, htarget⟩ := h
    simp only [ScalingPolicy.toJson, readable_obj, readableMembers, hfield hmin, hfield hmax,
      hfield htarget]
    simp [readable]

/-! ### The stored payload -/

theorem nodup_entriesOf (hv : readable r v = true) (field slug : String) :
    ((entriesOf v field slug).map Prod.fst).Nodup := by
  unfold entriesOf
  split
  · rename_i entries h
    obtain ⟨m, hm, h⟩ := Option.bind_eq_some_iff.1 h
    exact nodup_keys_of_readable (readable_get? (readable_get? hv hm) h)
  · exact List.nodup_nil

theorem readable_stringMap {kvs : List (String × String)} (h : (kvs.map Prod.fst).Nodup) :
    readable r (stringMap kvs) = true := by
  rw [stringMap, readable_obj, Bool.and_eq_true, decide_eq_true_eq, readableMembers_iff]
  refine ⟨by simpa [List.map_map, Function.comp_def] using h, fun p hp => ?_⟩
  obtain ⟨q, -, rfl⟩ := List.mem_map.1 hp
  rfl

theorem readable_byComponent {cs : List Component} {f : Component → Json}
    (hslugs : (cs.map (·.slug)).Nodup) (hf : ∀ c ∈ cs, readable r (f c) = true) :
    readable r (byComponent cs f) = true := by
  rw [byComponent, readable_obj, Bool.and_eq_true, decide_eq_true_eq, readableMembers_iff]
  refine ⟨by simpa [List.map_map, Function.comp_def] using hslugs, fun p hp => ?_⟩
  obtain ⟨c, hc, rfl⟩ := List.mem_map.1 hp
  exact hf c hc

/-- A deployment whose normalized payload can be stored and read back. -/
structure WellFormed (r : FloatReader) (d : DesiredDeployment) : Prop where
  manifest : readable r d.manifest = true
  modules : ∃ modules, d.manifest.get? "modules" = some (.arr modules) ∧
    d.components.map (fun c => some c.identity) = modules.map moduleIdentity
  slugs : (d.components.map (·.slug)).Nodup
  generation : readable r (.int d.generation) = true
  values : ∀ c ∈ d.components, (c.configuration.map Prod.fst).Nodup ∧
    (c.secretRefs.map Prod.fst).Nodup
  scaling : ∀ c ∈ d.components, readable r c.scaling.toJson = true
  normalized : d.normalizedPayload = normalizedPayload d.deploymentId d.environment d.generation
    d.desiredState d.releaseDigest d.manifest d.components

theorem Parsed.wellFormed (h : Parsed settings allowAbsent v d) (hv : readable r v = true) :
    WellFormed r d := by
  obtain ⟨release, hrelease, -, hmanifest⟩ := h.release
  refine ⟨readable_get? (readable_get? hv hrelease) hmanifest, h.modules, h.slugs,
    readable_get? hv h.generation, fun c hc => ?_, fun c hc => ?_, h.normalized⟩
  · have hconfiguration := nodup_entriesOf hv "configuration" c.slug
    have hsecretRefs := nodup_entriesOf hv "secret_refs" c.slug
    rw [h.configuration c hc] at hconfiguration
    rw [h.secretRefs c hc] at hsecretRefs
    simp only [List.map_map, Function.comp_def] at hconfiguration hsecretRefs
    exact ⟨hconfiguration, hsecretRefs⟩
  · obtain ⟨w, hw, hwritten⟩ := scalingPolicy_eq_ok (h.scaling c hc)
    obtain ⟨m, hm, hw⟩ := Option.bind_eq_some_iff.1 hw
    exact readable_policy (readable_get? (readable_get? hv hm) hw) hwritten

theorem WellFormed.readable (h : WellFormed r d) : Json.readable r d.normalizedPayload = true := by
  have hconfiguration : Json.readable r
      (byComponent d.components fun c => stringMap c.configuration) = true :=
    readable_byComponent h.slugs fun c hc => readable_stringMap (h.values c hc).1
  have hsecretRefs : Json.readable r
      (byComponent d.components fun c => stringMap c.secretRefs) = true :=
    readable_byComponent h.slugs fun c hc => readable_stringMap (h.values c hc).2
  have hscaling : Json.readable r (byComponent d.components fun c => c.scaling.toJson) = true :=
    readable_byComponent h.slugs h.scaling
  rw [h.normalized, normalizedPayload]
  simp only [readable_obj, readableMembers, h.manifest, h.generation, hconfiguration, hsecretRefs,
    hscaling]
  simp [Json.readable]

/-- Two deployments that differ in the order of keys only. -/
structure SameDesired (d d' : DesiredDeployment) : Prop where
  deploymentId : d'.deploymentId = d.deploymentId
  environment : d'.environment = d.environment
  generation : d'.generation = d.generation
  desiredState : d'.desiredState = d.desiredState
  releaseDigest : d'.releaseDigest = d.releaseDigest
  components : d'.components.map (·.identity) = d.components.map (·.identity)
  normalized : d'.normalizedPayload.sortKeys = d.normalizedPayload.sortKeys

theorem moduleIdentity_sortKeys {raw : Json} (h : readable r raw = true) :
    moduleIdentity raw.sortKeys = moduleIdentity raw := by
  unfold moduleIdentity
  rw [get?_sortKeys (nodup_keys_of_readable h), get?_sortKeys (nodup_keys_of_readable h)]
  cases hslug : raw.get? "slug" with
  | none => rfl
  | some x =>
    cases himage : raw.get? "image" with
    | none => cases x <;> rfl
    | some y => cases x <;> cases y <;> rfl

theorem DesiredState.value_injective {a b : DesiredState} (h : a.value = b.value) : a = b := by
  cases a <;> cases b <;> first | rfl | simp [value] at h

/-- Lists with the same keys, and values that are equal where the keys are. -/
theorem map_eq_of_keys {α β γ : Type} {f : α → β} {g : α → γ} {xs ys : List α}
    (hkeys : xs.map f = ys.map f) (hvalues : ∀ x ∈ xs, ∀ y ∈ ys, f x = f y → g x = g y) :
    xs.map g = ys.map g := by
  induction xs generalizing ys with
  | nil =>
    cases ys with
    | nil => rfl
    | cons y ys => cases hkeys
  | cons x xs ih =>
    cases ys with
    | nil => cases hkeys
    | cons y ys =>
      rw [List.map_cons, List.map_cons, List.cons.injEq] at hkeys
      rw [List.map_cons, List.map_cons, hvalues x (.head _) y (.head _) hkeys.1,
        ih hkeys.2 fun a ha b hb => hvalues a (.tail _ ha) b (.tail _ hb)]

theorem get?_byComponent {cs : List Component} {f : Component → Json} {c : Component}
    (hslugs : (cs.map (·.slug)).Nodup) (hc : c ∈ cs) :
    (byComponent cs f).get? c.slug = some (f c) := by
  rw [byComponent, get?_obj, lookup_eq_some_of_nodup]
  · exact List.mem_map_of_mem (f := fun c => (c.slug, f c)) hc
  · simpa [List.map_map, Function.comp_def] using hslugs

theorem stringMap_of_entriesOf {kvs lws : List (String × String)} {field slug : String} {m : Json}
    (hfield : v.get? field = some m) (hm : m.get? slug = some (sortKeys (stringMap kvs)))
    (hentries : entriesOf v field slug = lws.map fun p => (p.1, .str p.2)) :
    stringMap lws = sortKeys (stringMap kvs) := by
  obtain ⟨es, hes, -⟩ := sortKeys_obj (kvs.map fun p => (p.1, .str p.2))
  have : entriesOf v field slug = es := by
    simp only [entriesOf, hfield, Option.bind_some, hm, stringMap, hes]
  rw [stringMap, ← hentries, this, stringMap, hes]

section Again

variable (h : WellFormed r d)

include h

theorem WellFormed.get?_stored (k : String) {x : Json} (hx : d.normalizedPayload.get? k = some x) :
    d.normalizedPayload.sortKeys.get? k = some x.sortKeys := by
  rw [get?_sortKeys (nodup_keys_of_readable (h.readable)), hx, Option.map_some]

theorem WellFormed.get?_stored_byComponent (k : String) {f : Component → Json}
    (hk : d.normalizedPayload.get? k = some (byComponent d.components f)) {c : Component}
    (hc : c ∈ d.components) :
    ∃ m, d.normalizedPayload.sortKeys.get? k = some m ∧ m.get? c.slug = some (f c).sortKeys := by
  have hslugs : (byComponent d.components f).keys.Nodup := by
    have := h.slugs
    simpa [byComponent, keys, List.map_map, Function.comp_def] using this
  refine ⟨_, h.get?_stored k hk, ?_⟩
  rw [get?_sortKeys hslugs, get?_byComponent h.slugs hc, Option.map_some]

variable (h' : Parsed settings allowAbsent d.normalizedPayload.sortKeys d')

include h'

theorem WellFormed.again_release :
    d'.releaseDigest = d.releaseDigest ∧ d'.manifest = d.manifest.sortKeys := by
  obtain ⟨release', hrelease', hdigest', hmanifest'⟩ := h'.release
  set release := Json.obj [("digest", .str d.releaseDigest), ("manifest", d.manifest)] with hr
  have hnodup : release.keys.Nodup := by simp [hr, keys]
  have hstored := h.get?_stored "release" (x := release) (by rw [h.normalized]; rfl)
  rw [hrelease'] at hstored
  obtain rfl := Option.some.inj hstored
  rw [get?_sortKeys hnodup] at hdigest' hmanifest'
  have hdigest : release.get? "digest" = some (.str d.releaseDigest) := rfl
  have hmanifest : release.get? "manifest" = some d.manifest := rfl
  rw [hdigest, Option.map_some, sortKeys_str] at hdigest'
  rw [hmanifest, Option.map_some] at hmanifest'
  exact ⟨(Json.str.inj (Option.some.inj hdigest')).symm, (Option.some.inj hmanifest').symm⟩

theorem WellFormed.again_components :
    d'.components.map (·.identity) = d.components.map (·.identity) := by
  obtain ⟨modules, hmodules, hidentities⟩ := h.modules
  obtain ⟨modules', hmodules', hidentities'⟩ := h'.modules
  rw [(h.again_release h').2, get?_sortKeys (nodup_keys_of_readable h.manifest), hmodules,
    Option.map_some, sortKeys_arr] at hmodules'
  have hraw : ∀ raw ∈ modules, Json.readable r raw = true := by
    have := readable_get? h.manifest hmodules
    rwa [Json.readable, readableItems_iff] at this
  have hsame : modules'.map moduleIdentity = modules.map moduleIdentity := by
    rw [← Json.arr.inj (Option.some.inj hmodules'), List.map_map, List.map_inj_left]
    exact fun raw hmem => moduleIdentity_sortKeys (hraw raw hmem)
  rw [← hidentities, ← hidentities'] at hsame
  refine List.map_injective_iff.2 (Option.some_injective _) ?_
  simpa only [List.map_map, Function.comp_def] using hsame

/-- The values of a component are stored as they are, up to the order of keys. -/
theorem WellFormed.again_values {c c' : Component} (hc : c ∈ d.components)
    (hc' : c' ∈ d'.components)
    (hslug : c'.slug = c.slug) :
    stringMap c'.configuration = (stringMap c.configuration).sortKeys ∧
      stringMap c'.secretRefs = (stringMap c.secretRefs).sortKeys ∧ c'.scaling = c.scaling := by
  obtain ⟨m, hm, hconfiguration⟩ := h.get?_stored_byComponent "configuration"
    (f := fun c => stringMap c.configuration) (by rw [h.normalized]; rfl) hc
  obtain ⟨n, hn, hsecretRefs⟩ := h.get?_stored_byComponent "secret_refs"
    (f := fun c => stringMap c.secretRefs) (by rw [h.normalized]; rfl) hc
  obtain ⟨o, ho, hscaling⟩ := h.get?_stored_byComponent "scaling"
    (f := fun c => c.scaling.toJson) (by rw [h.normalized]; rfl) hc
  have hconfiguration' := h'.configuration c' hc'
  have hsecretRefs' := h'.secretRefs c' hc'
  rw [hslug] at hconfiguration' hsecretRefs'
  refine ⟨stringMap_of_entriesOf hm hconfiguration hconfiguration',
    stringMap_of_entriesOf hn hsecretRefs hsecretRefs', ?_⟩
  obtain ⟨w, hw, hwritten⟩ := scalingPolicy_eq_ok (h'.scaling c' hc')
  rw [hslug, ho, Option.bind_some, hscaling] at hw
  obtain ⟨hpolicy, hnodup⟩ := writtenIn_toJson c.scaling
  have := Option.some.inj hw
  subst this
  exact hwritten.unique (hpolicy.sortKeys hnodup)

/-- **The stored payload is read back as the same deployment.** -/
theorem WellFormed.again : SameDesired d d' := by
  have hstr : ∀ {k s t}, d.normalizedPayload.get? k = some (.str s) →
      d.normalizedPayload.sortKeys.get? k = some (.str t) → t = s := by
    intro k s t hs ht
    rw [h.get?_stored k hs, sortKeys_str] at ht
    exact (Json.str.inj (Option.some.inj ht)).symm
  have hdeploymentId : d'.deploymentId = d.deploymentId :=
    hstr (by rw [h.normalized]; rfl) h'.deploymentId
  have henvironment : d'.environment = d.environment :=
    hstr (by rw [h.normalized]; rfl) h'.environment
  have hstate : d'.desiredState = d.desiredState :=
    DesiredState.value_injective (hstr (by rw [h.normalized]; rfl) h'.state)
  have hgeneration : d'.generation = d.generation := by
    have hstored := h.get?_stored "generation" (x := .int d.generation)
      (by rw [h.normalized]; rfl)
    rw [h'.generation, sortKeys_int] at hstored
    exact Int.ofNat.inj (Json.int.inj (Option.some.inj hstored))
  obtain ⟨hdigest, hmanifest⟩ := h.again_release h'
  have hcomponents := h.again_components h'
  have hslugs : d'.components.map (·.slug) = d.components.map (·.slug) := by
    have := congrArg (List.map Prod.fst) hcomponents
    simpa only [List.map_map, Function.comp_def, Component.identity] using this
  -- the three maps by component have the same slugs in the same order
  have hbyComponent : ∀ f : Component → Json, (∀ c ∈ d.components, ∀ c' ∈ d'.components,
      c'.slug = c.slug → (f c').sortKeys = (f c).sortKeys) →
      (byComponent d'.components f).sortKeys = (byComponent d.components f).sortKeys := by
    intro f hf
    refine sortKeys_obj_congr ?_
    simp only [List.map_map, Function.comp_def]
    exact map_eq_of_keys hslugs fun c' hc' c hc hslug => by rw [hslug, hf c hc c' hc' hslug]
  have hconfiguration := hbyComponent (fun c => stringMap c.configuration)
    fun c hc c' hc' hslug => by
      rw [(h.again_values h' hc hc' hslug).1,
        sortKeys_sortKeys (r := r) (readable_stringMap (h.values c hc).1)]
  have hsecretRefs := hbyComponent (fun c => stringMap c.secretRefs)
    fun c hc c' hc' hslug => by
      rw [(h.again_values h' hc hc' hslug).2.1,
        sortKeys_sortKeys (r := r) (readable_stringMap (h.values c hc).2)]
  have hscaling := hbyComponent (fun c => c.scaling.toJson)
    fun c hc c' hc' hslug => by rw [(h.again_values h' hc hc' hslug).2.2]
  have hsorted : d.manifest.sortKeys.sortKeys = d.manifest.sortKeys := sortKeys_sortKeys h.manifest
  refine ⟨hdeploymentId, henvironment, hgeneration, hstate, hdigest, hcomponents, ?_⟩
  rw [h.normalized, h'.normalized]
  refine sortKeys_obj_congr ?_
  have hrelease : (Json.obj [("digest", .str d'.releaseDigest),
    ("manifest", d'.manifest)]).sortKeys =
      (Json.obj [("digest", .str d.releaseDigest), ("manifest", d.manifest)]).sortKeys :=
    sortKeys_obj_congr (by simp only [List.map_cons, List.map_nil, hdigest, hmanifest, hsorted])
  simp only [List.map_cons, List.map_nil, hdeploymentId, henvironment, hgeneration, hstate,
    hrelease, hconfiguration, hsecretRefs, hscaling]

end Again

/-! ### A sample release

A release with one component, which has one plain configuration key, and its deployments. The keys
of the payload are in order, so that the payload that the controller stores is the one that was
sent. -/

def sampleSettings : ControllerSettings where
  environment := "production"
  namespaceName := "archideal-runtime"
  allowedImagePrefixes := ["registry.example/"]
  workloadServiceAccount := "runtime-workload"
  imagePullSecret := ""
  secretNamePrefix := "runtime"
  secretCatalogName := "runtime-secret-catalog"
  secretCatalogNamespace := "archideal"
  maxReplicas := 5

/-- An interpreter that keeps every float literal. -/
def sampleReader : FloatReader := ⟨some, fun _ _ h => by cases h; rfl⟩

/-- The identifier of the deployment. -/
def sampleId : String := "00000000-0000-4000-8000-000000000001"

/-- The image of the component. -/
def sampleImage : String :=
  "registry.example/shop@sha256:" ++
    "0123456789abcdef0123456789abcdef0123456789abcdef0123456789abcdef"

/-- The runtime profile of the component. -/
def sampleSpec : Json :=
  .obj [("configuration", .obj [("plain", .arr [.str "GREETING"])]), ("container_port", .int 8080),
    ("healthcheck_path", .str "/health"), ("kind", .str "deployment"),
    ("resources", .obj [("limits", .obj [("cpu", .str "1"), ("memory", .str "1Gi")]),
      ("requests", .obj [("cpu", .str "1"), ("memory", .str "1Gi")])])]

/-- The manifest with the given digest of the profile. -/
def manifestWith (profileDigest slug : String) : Json :=
  .obj [("application", .obj [("id", .int 7), ("slug", .str "shop")]),
    ("modules", .arr [.obj [("image", .str sampleImage), ("module_id", .int 1),
      ("profile_digest", .str profileDigest), ("profile_schema_version", .int 1),
      ("slug", .str slug), ("spec", sampleSpec)]]),
    ("schema_version", .int 1), ("version", .str "1.0"), ("version_source", .str "tag")]

/-- The manifest with the digest of the profile. -/
def sampleManifest (slug : String) : Json := manifestWith (sha256Json sampleSpec) slug

/-- The component as it is parsed. -/
def sampleComponent (slug : String) : ManifestComponent :=
  ⟨1, slug, sampleImage, 8080, "/health", ⟨⟨"1", "1Gi"⟩, ⟨"1", "1Gi"⟩⟩, ["GREETING"], []⟩

/-- The payload with one replica, the given digests and the given greeting. -/
def payloadWith (profileDigest releaseDigest : String) (generation : ℕ) (state : DesiredState)
    (slug value : String) : Json :=
  .obj [("configuration", .obj [(slug, .obj [("GREETING", .str value)])]),
    ("deployment_id", .str sampleId), ("desired_state", .str state.value),
    ("environment", .str "production"), ("generation", .int generation),
    ("release", .obj [("digest", .str releaseDigest),
      ("manifest", manifestWith profileDigest slug)]),
    ("scaling", .obj [(slug, (ScalingPolicy.fixed 1).toJson)]),
      ("secret_refs", .obj [(slug, .obj [])])]

/-- The payload with its digests. -/
def samplePayload (generation : ℕ) (state : DesiredState) (slug value : String) : Json :=
  payloadWith (sha256Json sampleSpec) (sha256Json (sampleManifest slug)) generation state slug value

/-- The deployment in the payload. -/
def sampleDesired (generation : ℕ) (state : DesiredState) (slug value : String) :
    DesiredDeployment :=
  let components := [⟨sampleComponent slug, [("GREETING", value)], [], .fixed 1⟩]
  ⟨sampleId, "production", generation, state, sha256Json (sampleManifest slug), sampleManifest slug,
    components, normalizedPayload sampleId "production" generation state
      (sha256Json (sampleManifest slug)) (sampleManifest slug) components⟩

/-- A slug and a greeting that the controller accepts. -/
structure IsSample (slug value : String) : Prop where
  manifest : parseManifest sampleSettings (sampleManifest slug) = .ok [sampleComponent slug]
  slug : isComponentSlug slug = true
  length_le : value.length ≤ 2048
  nul : value.toList.contains '\x00' = false
  size_le : value.utf8ByteSize ≤ 16376

section Sample

variable {slug value : String} {generation : ℕ} {state : DesiredState}

theorem validateValues_sample (h : IsSample slug value) :
    validateValues [("GREETING", .str value)] ["GREETING"] slug false =
      .ok [("GREETING", value)] := by
  have hkey : (isEnvKey "GREETING" && ["GREETING"].contains "GREETING") = true := by decide +kernel
  have hbytes : decide (0 + "GREETING".utf8ByteSize + value.utf8ByteSize ≤ 16384) = true := by
    have := h.size_le
    rw [decide_eq_true_eq, show "GREETING".utf8ByteSize = 8 from rfl]
    omega
  have htext : ∀ e : ControllerError, stringField (some (.str value))
      (fun text => text.length ≤ 2048 && !text.toList.contains '\x00') e = .ok value := by
    simp only [stringField, h.length_le, h.nul, decide_true, Bool.not_false, Bool.and_self, if_true,
      implies_true]
  show validateEntries ["GREETING"] slug false 0 [("GREETING", .str value)] = _
  simp only [validateEntries, hkey, htext, hbytes, ensure_true, ok_bind, Bool.not_false,
    Bool.true_or]
  rfl

theorem desiredComponent_sample (h : IsSample slug value) :
    desiredComponent sampleSettings [(slug, [("GREETING", .str value)])] [(slug, [])]
      (.obj [(slug, (ScalingPolicy.fixed 1).toJson)]) (sampleComponent slug) =
      .ok ⟨sampleComponent slug, [("GREETING", value)], [], .fixed 1⟩ := by
  have hlookup : ∀ {α : Type} (a : α), [(slug, a)].lookup (sampleComponent slug).slug = some a :=
    fun _ => List.lookup_cons_self
  refine bind_eq_ok.2 ⟨[("GREETING", value)], ?_, bind_eq_ok.2 ⟨[], ?_,
    bind_eq_ok.2 ⟨.fixed 1, ?_, rfl⟩⟩⟩
  · rw [hlookup]
    exact validateValues_sample h
  · rw [hlookup]
    rfl
  · rw [get?, hlookup]
    rfl

/-- **The sample payload is accepted.** -/
theorem parse_sample (h : IsSample slug value) (hgeneration : 1 ≤ generation)
    (hstate : state = .absent → allowAbsent = true) :
    parseDesiredDeployment sampleSettings allowAbsent (samplePayload generation state slug value) =
      .ok (sampleDesired generation state slug value) := by
  set payload := samplePayload generation state slug value
  set digest := sha256Json (sampleManifest slug)
  have hid : validateDeploymentId (payload.get? "deployment_id") = .ok sampleId :=
    show validateDeploymentId (some (.str sampleId)) = _ by decide +kernel
  have hpositive : positiveInt (payload.get? "generation") "generation" = .ok generation := by
    show positiveInt (some (.int generation)) "generation" = _
    rw [positiveInt, if_pos (by omega), Int.toNat_natCast]
  have hdesired : desiredStateField (payload.get? "desired_state") allowAbsent = .ok state := by
    show desiredStateField (some (.str state.value)) allowAbsent = _
    cases state with
    | running | stopped => rfl
    | absent =>
      rw [hstate rfl]
      rfl
  have hdigest : ∀ e : ControllerError, stringField (some (.str digest)) isHexDigest e =
      .ok digest := by
    have : isHexDigest digest = true := Sha256.isHexDigest_hexdigest _
    simp only [stringField, this, if_true, implies_true]
  have hmapping : ∀ entries label, componentMapping (some (.obj [(slug, .obj entries)])) label =
      .ok [(slug, entries)] := by
    intro entries label
    simp only [componentMapping, object, ok_bind, List.mapM_cons, h.slug, ensure_true]
    rfl
  have hknown : ∀ label, knownSlugs label [slug] [slug] = .ok () := by
    intro label
    simp [knownSlugs]
  refine bind_eq_ok.2 ⟨payload, rfl, bind_eq_ok.2 ⟨(), rfl, bind_eq_ok.2 ⟨_, hid, ?_⟩⟩⟩
  refine bind_eq_ok.2 ⟨"production", rfl, bind_eq_ok.2 ⟨_, hpositive, ?_⟩⟩
  refine bind_eq_ok.2 ⟨_, hdesired, bind_eq_ok.2 ⟨.obj [("digest", .str digest),
    ("manifest", sampleManifest slug)], rfl, bind_eq_ok.2 ⟨(), rfl, ?_⟩⟩⟩
  refine bind_eq_ok.2 ⟨sampleManifest slug, rfl, bind_eq_ok.2 ⟨_, hdigest _, ?_⟩⟩
  refine bind_eq_ok.2 ⟨(), by rw [beq_self_eq_true]; rfl, bind_eq_ok.2 ⟨_, h.manifest, ?_⟩⟩
  refine bind_eq_ok.2 ⟨_, hmapping _ _, bind_eq_ok.2 ⟨_, hmapping _ _, bind_eq_ok.2 ⟨_, rfl, ?_⟩⟩⟩
  refine bind_eq_ok.2 ⟨(), hknown _, bind_eq_ok.2 ⟨(), hknown _, bind_eq_ok.2 ⟨(), hknown _, ?_⟩⟩⟩
  refine bind_eq_ok.2 ⟨(), ?_, bind_eq_ok.2 ⟨_, ?_, rfl⟩⟩
  · simp [sampleComponent, keys]
  · rw [List.mapM_cons, desiredComponent_sample h]
    rfl

theorem isSample_web (hlength : value.length ≤ 2048) (hnul : value.toList.contains '\x00' = false)
    (hsize : value.utf8ByteSize ≤ 16376) : IsSample "web" value :=
  ⟨by decide +kernel, by decide +kernel, hlength, hnul, hsize⟩

theorem isSample_hello : IsSample "web" "hello" := isSample_web (by decide) (by decide) (by decide)

theorem readable_sample (hgeneration : generation ≤ 3) :
    readable sampleReader (samplePayload generation state slug value) = true := by
  rcases (by omega : generation = 0 ∨ generation = 1 ∨ generation = 2 ∨ generation = 3) with
    rfl | rfl | rfl | rfl <;> rfl

theorem sortKeys_sample : (sampleDesired generation state slug value).normalizedPayload.sortKeys =
    samplePayload generation state slug value := rfl

end Sample

end ArchiDeal.Reconciler
