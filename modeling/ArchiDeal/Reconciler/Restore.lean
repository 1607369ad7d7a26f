import ArchiDeal.Reconciler.Record

/-!
# The stored deployment is accepted again

`state_config_map` writes the normalized payload of a deployment with its keys sorted, and
`_desired_from_state` parses that text with every check of the contract. A check reads a value by
its keys and never by their order, so that what passed once passes again: `Accepted` collects what
the checks have established, and `Accepted.restore` runs them on the sorted payload.
-/

namespace ArchiDeal.Reconciler

open Text Hosting Json

variable {settings : ControllerSettings} {allowAbsent : Bool} {v w : Json}
  {d d' : DesiredDeployment}
  {r : FloatReader}

/-! ### Checks do not see the order of keys -/

theorem isObj_sortKeys (v : Json) : v.sortKeys.isObj = v.isObj := by
  cases v <;> simp [Json.sortKeys, isObj]

theorem object_of_isObj (h : v.isObj = true) (label : String) : object (some v) label = .ok v := by
  cases v with
  | obj kvs => rfl
  | _ => cases h

theorem object_sortKeys {value : Option Json} {label : String} (h : object value label = .ok v) :
    object (value.map sortKeys) label = .ok v.sortKeys := by
  obtain ⟨rfl, kvs, rfl⟩ := object_eq_ok h
  exact object_of_isObj (isObj_sortKeys _) label

theorem keys_sortKeys_perm (v : Json) : v.sortKeys.keys.Perm v.keys := by
  cases v with
  | obj kvs =>
    obtain ⟨lws, h, hperm, -⟩ := sortKeys_obj kvs
    rw [h]
    exact keys_perm_of_sortKeys hperm
  | _ => exact .refl _

theorem exactFields_of_perm {allowed optional : List String} {label : String}
    (hperm : w.keys.Perm v.keys) (h : exactFields v allowed label optional = .ok ()) :
    exactFields w allowed label optional = .ok () := by
  have hmem : ∀ k, k ∈ w.keys ↔ k ∈ v.keys := fun k => hperm.mem_iff
  simp only [exactFields, ensure_eq_ok, Bool.and_eq_true, List.isEmpty_iff,
    List.filter_eq_nil_iff] at h ⊢
  refine ⟨fun k hk => h.1 k ((hmem k).1 hk), fun k hk => ?_⟩
  have := h.2 k hk
  simp only [List.contains_eq_mem, hmem] at this ⊢
  exact this

theorem exactFields_sortKeys {allowed optional : List String} {label : String}
    (h : exactFields v allowed label optional = .ok ()) :
    exactFields v.sortKeys allowed label optional = .ok () :=
  exactFields_of_perm (keys_sortKeys_perm v) h

@[simp] theorem positiveInt_sortKeys (value : Option Json) (label : String) :
    positiveInt (value.map sortKeys) label = positiveInt value label := by
  rcases value with _ | x
  · rfl
  · cases x <;> simp [positiveInt, Json.sortKeys]

@[simp] theorem stringField_sortKeys (value : Option Json) (p : String → Bool)
    (e : ControllerError) : stringField (value.map sortKeys) p e = stringField value p e := by
  rcases value with _ | x
  · rfl
  · cases x <;> simp [stringField, Json.sortKeys]

@[simp] theorem any_eqStr_sortKeys (value : Option Json) (s : String) :
    (value.map sortKeys).any (·.eqStr s) = value.any (·.eqStr s) := by
  rcases value with _ | x
  · rfl
  · cases x <;> simp [eqStr, Json.sortKeys]

@[simp] theorem any_eqInt_sortKeys (value : Option Json) (n : ℤ) :
    (value.map sortKeys).any (·.eqInt n) = value.any (·.eqInt n) := by
  rcases value with _ | x
  · rfl
  · cases x <;> simp [eqInt, Json.sortKeys]

theorem strings_map_sortKeys (xs : List Json) : strings (xs.map sortKeys) = strings xs := by
  induction xs with
  | nil => rfl
  | cons x xs ih => cases x <;> simp [strings, Json.sortKeys, ih]

theorem configurationKeys_sortKeys (hv : readable r v = true) (group : String) :
    configurationKeys v.sortKeys group = configurationKeys v group := by
  unfold configurationKeys
  rw [get?_sortKeys (nodup_keys_of_readable hv)]
  cases v.get? group with
  | none => rfl
  | some x => cases x <;> simp [Json.sortKeys, sortItems_eq, strings_map_sortKeys]

theorem keySet_sortKeys (hv : readable r v = true) (group slug : String) :
    keySet v.sortKeys group slug = keySet v group slug := by
  rw [keySet, keySet, configurationKeys_sortKeys hv]

/-! ### The manifest -/

theorem resourceGroup_sortKeys {slug group : String} {g : ResourceGroup}
    (hv : readable r v = true) (h : resourceGroup v slug group = .ok g) :
    resourceGroup v.sortKeys slug group = .ok g := by
  obtain ⟨entries, hentries, h⟩ := bind_eq_ok.1 h
  obtain ⟨⟨⟩, hfields, h⟩ := bind_eq_ok.1 h
  have hreadable := readable_get? hv (object_eq_ok hentries).1
  rw [resourceGroup, get?_sortKeys (nodup_keys_of_readable hv), object_sortKeys hentries, ok_bind,
    exactFields_sortKeys hfields, ok_bind]
  simpa only [get?_sortKeys (nodup_keys_of_readable hreadable), stringField_sortKeys] using h

theorem parseResources_sortKeys {value : Option Json} {slug : String} {c : ComponentResources}
    (hv : ∀ v, value = some v → readable r v = true) (h : parseResources value slug = .ok c) :
    parseResources (value.map sortKeys) slug = .ok c := by
  obtain ⟨resources, hresources, h⟩ := bind_eq_ok.1 h
  obtain ⟨⟨⟩, hfields, h⟩ := bind_eq_ok.1 h
  obtain ⟨requests, hrequests, h⟩ := bind_eq_ok.1 h
  obtain ⟨limits, hlimits, h⟩ := bind_eq_ok.1 h
  have hreadable := hv _ (object_eq_ok hresources).1
  rw [parseResources, object_sortKeys hresources, ok_bind, exactFields_sortKeys hfields, ok_bind,
    resourceGroup_sortKeys hreadable hrequests, ok_bind, resourceGroup_sortKeys hreadable hlimits,
    ok_bind]
  exact h

/-- The network egress that is accepted is the empty list, in any order. -/
theorem networkEgress_sortKeys {value : Option Json} (h : value.getD (.arr []) = .arr []) :
    (value.map sortKeys).getD (.arr []) = .arr [] := by
  rcases value with _ | x
  · rfl
  · obtain rfl : x = .arr [] := h
    rfl

theorem parseProfile_sortKeys {moduleId : ℕ} {slug image : String} {spec : Json}
    {c : ManifestComponent} (hspec : readable r spec = true)
    (h : parseProfile moduleId slug image spec = .ok c) :
    parseProfile moduleId slug image spec.sortKeys = .ok c := by
  obtain ⟨⟨⟩, hfields, h⟩ := bind_eq_ok.1 h
  obtain ⟨⟨⟩, hkind, h⟩ := bind_eq_ok.1 h
  obtain ⟨port, hport, h⟩ := bind_eq_ok.1 h
  obtain ⟨⟨⟩, hrange, h⟩ := bind_eq_ok.1 h
  obtain ⟨health, hhealth, h⟩ := bind_eq_ok.1 h
  obtain ⟨resources, hresources, h⟩ := bind_eq_ok.1 h
  obtain ⟨configuration, hconfiguration, h⟩ := bind_eq_ok.1 h
  obtain ⟨⟨⟩, hgroups, h⟩ := bind_eq_ok.1 h
  obtain ⟨plain, hplain, h⟩ := bind_eq_ok.1 h
  obtain ⟨secret, hsecret, h⟩ := bind_eq_ok.1 h
  obtain ⟨⟨⟩, hdisjoint, h⟩ := bind_eq_ok.1 h
  have hnodup := nodup_keys_of_readable hspec
  -- the configuration is part of the profile, or empty if it is missing
  have hreadable : readable r configuration = true := by
    have heq := Option.some.inj (object_eq_ok hconfiguration).1
    cases hc : spec.get? "configuration" with
    | none =>
      rw [hc] at heq
      rw [← heq]
      rfl
    | some x =>
      rw [hc] at heq
      exact heq ▸ readable_get? hspec hc
  have hconfiguration' : object (some (((spec.get? "configuration").map sortKeys).getD (.obj [])))
      s!"Configuration schema for {slug}" = .ok configuration.sortKeys := by
    rw [← object_sortKeys hconfiguration, Option.map_some]
    cases spec.get? "configuration" <;> rfl
  simp only [parseProfile, get?_sortKeys hnodup, any_eqStr_sortKeys, positiveInt_sortKeys,
    stringField_sortKeys, exactFields_sortKeys hfields, hkind, hport, hrange, hhealth,
    parseResources_sortKeys (fun _ => readable_get? hspec) hresources, hconfiguration',
    exactFields_sortKeys hgroups, keySet_sortKeys hreadable, hplain, hsecret, hdisjoint, ok_bind]
  split at h
  · rename_i hegress
    rw [networkEgress_sortKeys hegress]
    exact h
  · cases h
  · cases h

theorem sha256Json_sortKeys (hv : readable r v = true) : sha256Json v.sortKeys = sha256Json v := by
  rw [sha256Json, sha256Json, canonical, canonical, sortKeys_sortKeys hv]

theorem parseModule_sortKeys {parsed : List ManifestComponent} {raw : Json}
    {c : ManifestComponent} (hraw : readable r raw = true)
    (h : parseModule settings parsed raw = .ok c) :
    parseModule settings parsed raw.sortKeys = .ok c := by
  obtain ⟨component, hcomponent, h⟩ := bind_eq_ok.1 h
  obtain ⟨heq, -⟩ := object_eq_ok hcomponent
  obtain rfl := Option.some.inj heq
  obtain ⟨⟨⟩, hfields, h⟩ := bind_eq_ok.1 h
  obtain ⟨moduleId, hmoduleId, h⟩ := bind_eq_ok.1 h
  obtain ⟨slug, hslug, h⟩ := bind_eq_ok.1 h
  obtain ⟨image, himage, h⟩ := bind_eq_ok.1 h
  obtain ⟨⟨⟩, hversion, h⟩ := bind_eq_ok.1 h
  obtain ⟨spec, hspec, h⟩ := bind_eq_ok.1 h
  obtain ⟨digest, hdigest, h⟩ := bind_eq_ok.1 h
  have hreadable := readable_get? hraw (object_eq_ok hspec).1
  simp only [parseModule, get?_sortKeys (nodup_keys_of_readable hraw), positiveInt_sortKeys,
    stringField_sortKeys, any_eqInt_sortKeys, ← Option.map_some (f := sortKeys),
    object_sortKeys hcomponent, exactFields_sortKeys hfields, hmoduleId, hslug, himage, hversion,
    object_sortKeys hspec, sha256Json_sortKeys hreadable, hdigest, ok_bind]
  exact parseProfile_sortKeys hreadable h

theorem parseModules_sortKeys {parsed result : List ManifestComponent} {modules : List Json}
    (hmodules : ∀ raw ∈ modules, readable r raw = true)
    (h : parseModules settings parsed modules = .ok result) :
    parseModules settings parsed (modules.map sortKeys) = .ok result := by
  induction modules generalizing parsed with
  | nil => exact h
  | cons raw rest ih =>
    obtain ⟨c, hc, h⟩ := bind_eq_ok.1 h
    rw [List.map_cons, parseModules, parseModule_sortKeys (hmodules raw (.head _)) hc, ok_bind]
    exact ih (fun x hx => hmodules x (.tail _ hx)) h

/-- **A manifest is parsed alike in any order of its keys.** -/
theorem parseManifest_sortKeys {manifest : Json} {parsed : List ManifestComponent}
    (hm : readable r manifest = true) (h : parseManifest settings manifest = .ok parsed) :
    parseManifest settings manifest.sortKeys = .ok parsed := by
  obtain ⟨⟨⟩, hfields, h⟩ := bind_eq_ok.1 h
  obtain ⟨⟨⟩, hversion, h⟩ := bind_eq_ok.1 h
  obtain ⟨application, happlication, h⟩ := bind_eq_ok.1 h
  obtain ⟨⟨⟩, happfields, h⟩ := bind_eq_ok.1 h
  obtain ⟨⟨⟩, hid, h⟩ := bind_eq_ok.1 h
  obtain ⟨slug, hslug, h⟩ := bind_eq_ok.1 h
  obtain ⟨version, hname, h⟩ := bind_eq_ok.1 h
  obtain ⟨source, hsource, h⟩ := bind_eq_ok.1 h
  have hreadable := readable_get? hm (object_eq_ok happlication).1
  obtain ⟨id, hid⟩ : ∃ id, application.get? "id" = some (.int id) := by
    rw [ensure_eq_ok] at hid
    split at hid
    · exact ⟨_, ‹_›⟩
    · cases hid
  simp only [parseManifest, get?_sortKeys (nodup_keys_of_readable hm), any_eqInt_sortKeys,
    stringField_sortKeys, exactFields_sortKeys hfields, hversion, object_sortKeys happlication,
    exactFields_sortKeys happfields, get?_sortKeys (nodup_keys_of_readable hreadable), hid, hslug,
    hname, hsource, Option.map_some, sortKeys_int, ensure_true, ok_bind]
  split at h
  · rename_i modules hmodules
    have hitems := readable_get? hm hmodules
    rw [readable, readableItems_iff] at hitems
    obtain ⟨⟨⟩, hlength, h⟩ := bind_eq_ok.1 h
    simp only [hmodules, Option.map_some, sortKeys_arr, List.length_map, hlength, ok_bind]
    exact parseModules_sortKeys hitems h
  · cases h

/-! ### Values -/

/-- What `_validate_values` asks of one entry. -/
def EntryOk (allowed : List String) (secret : Bool) (p : String × String) : Prop :=
  (isEnvKey p.1 && allowed.contains p.1) = true ∧
    (decide (p.2.length ≤ 2048) && !p.2.toList.contains '\x00') = true ∧
      (!secret || isSecretName p.2) = true

/-- The bytes of the entries. -/
def entriesSize (kvs : List (String × String)) : ℕ :=
  (kvs.map fun p => p.1.utf8ByteSize + p.2.utf8ByteSize).sum

/-- The running total is within the limit exactly if the whole is. -/
theorem validateEntries_eq_ok_iff {allowed : List String} {slug : String} {secret : Bool}
    {total : ℕ} {kvs : List (String × String)} :
    validateEntries allowed slug secret total (kvs.map fun p => (p.1, .str p.2)) = .ok kvs ↔
      (∀ p ∈ kvs, EntryOk allowed secret p) ∧ (kvs = [] ∨ total + entriesSize kvs ≤ 16384) := by
  induction kvs generalizing total with
  | nil => exact ⟨fun _ => ⟨nofun, .inl rfl⟩, fun _ => rfl⟩
  | cons p kvs ih =>
    obtain ⟨key, value⟩ := p
    have hsize : entriesSize ((key, value) :: kvs) =
        key.utf8ByteSize + value.utf8ByteSize + entriesSize kvs := rfl
    simp only [List.map_cons, validateEntries, bind_eq_ok, ensure_eq_ok, exists_const, hsize]
    constructor
    · rintro ⟨hkey, text, htext, hsecret, htotal, more, hmore, h⟩
      cases h
      obtain ⟨-, hvalue⟩ := stringField_eq_ok htext
      obtain ⟨hall, hrest⟩ := ih.1 hmore
      refine ⟨List.forall_mem_cons.2 ⟨⟨hkey, hvalue, hsecret⟩, hall⟩, .inr ?_⟩
      rcases hrest with rfl | hrest
      · simpa [entriesSize, add_assoc] using htotal
      · omega
    · rintro ⟨hall, hrest⟩
      obtain ⟨⟨hkey, hvalue, hsecret⟩, hall⟩ := List.forall_mem_cons.1 hall
      have hle := hrest.resolve_left (by simp)
      refine ⟨hkey, value, by simp only [stringField, hvalue, if_true], hsecret, ?_, kvs, ?_, rfl⟩
      · simp only [decide_eq_true_eq]
        omega
      · exact ih.2 ⟨hall, .inr (by omega)⟩

theorem entriesSize_perm {kvs lws : List (String × String)} (h : kvs.Perm lws) :
    entriesSize kvs = entriesSize lws := (h.map _).sum_eq

theorem validateValues_perm {allowed : List String} {slug : String} {secret : Bool}
    {kvs lws : List (String × String)} (hperm : lws.Perm kvs)
    (h : validateValues (kvs.map fun p => (p.1, .str p.2)) allowed slug secret = .ok kvs) :
    validateValues (lws.map fun p => (p.1, .str p.2)) allowed slug secret = .ok lws := by
  obtain ⟨⟨⟩, hlength, h⟩ := bind_eq_ok.1 h
  obtain ⟨hall, hsize⟩ := validateEntries_eq_ok_iff.1 h
  rw [validateValues, List.length_map, hperm.length_eq]
  rw [List.length_map] at hlength
  rw [hlength, ok_bind, validateEntries_eq_ok_iff, entriesSize_perm hperm]
  refine ⟨fun p hp => hall p (hperm.subset hp), hsize.imp_left ?_⟩
  rintro rfl
  exact hperm.eq_nil

theorem positiveInt_natCast {n : ℕ} (hn : 1 ≤ n) (label : String) :
    positiveInt (some (.int n)) label = .ok n := by
  have hpos : (1 : ℤ) ≤ n := by exact_mod_cast hn
  simp only [positiveInt, if_pos hpos, Int.toNat_natCast]

/-- A scaling policy that is accepted is accepted again as it is written. -/
theorem scalingPolicy_toJson {value : Option Json} {slug : String} {maximum : ℕ}
    {policy : ScalingPolicy} (h : scalingPolicy value slug maximum = .ok policy) :
    scalingPolicy (some policy.toJson.sortKeys) slug maximum = .ok policy := by
  obtain ⟨w, -, h⟩ := bind_eq_ok.1 h
  obtain ⟨-, hnodup⟩ := writtenIn_toJson policy
  have hobject : policy.toJson.isObj = true := by cases policy <;> rfl
  rw [scalingPolicy, object_of_isObj (by rw [isObj_sortKeys, hobject]), ok_bind]
  simp only [get?_sortKeys hnodup, any_eqStr_sortKeys, positiveInt_sortKeys]
  split_ifs at h with hfixed hauto
  · obtain ⟨-, -, h⟩ := bind_eq_ok.1 h
    obtain ⟨replicas, hreplicas, h⟩ := bind_eq_ok.1 h
    obtain ⟨⟨⟩, hmaximum, h⟩ := bind_eq_ok.1 h
    cases h
    have hget : (ScalingPolicy.fixed replicas).toJson.get? "replicas" = some (.int replicas) := rfl
    rw [if_pos (by rfl), exactFields_sortKeys (by rfl), ok_bind, hget,
      positiveInt_natCast (positiveInt_eq_ok hreplicas).2, ok_bind, hmaximum]
    rfl
  · obtain ⟨-, -, h⟩ := bind_eq_ok.1 h
    obtain ⟨lo, hlo, h⟩ := bind_eq_ok.1 h
    obtain ⟨hi, hhi, h⟩ := bind_eq_ok.1 h
    obtain ⟨target, htarget, h⟩ := bind_eq_ok.1 h
    obtain ⟨⟨⟩, hlimits, h⟩ := bind_eq_ok.1 h
    cases h
    set policy := ScalingPolicy.autoscale lo hi target
    have hlo' : policy.toJson.get? "min_replicas" = some (.int lo) := rfl
    have hhi' : policy.toJson.get? "max_replicas" = some (.int hi) := rfl
    have htarget' : policy.toJson.get? "target_cpu_utilization" = some (.int target) := rfl
    rw [if_neg (fun h => nomatch h), if_pos (by rfl), exactFields_sortKeys (by rfl),
      ok_bind, hlo', hhi', htarget', positiveInt_natCast (positiveInt_eq_ok hlo).2, ok_bind,
      positiveInt_natCast (positiveInt_eq_ok hhi).2, ok_bind,
      positiveInt_natCast (positiveInt_eq_ok htarget).2, ok_bind, hlimits]
    rfl

/-! ### Accepted deployments -/

/-- What the checks of `parse_desired_deployment` have established about its result. -/
structure Accepted (settings : ControllerSettings) (d : DesiredDeployment) : Prop where
  canonical : isCanonicalUuid d.deploymentId = true
  managed : d.environment = settings.environment
  positive : 1 ≤ d.generation
  isObj : d.manifest.isObj = true
  digest : sha256Json d.manifest = d.releaseDigest
  parsed : parseManifest settings d.manifest = .ok (d.components.map (·.toManifestComponent))
  configuration : ∀ c ∈ d.components, validateValues (c.configuration.map fun p => (p.1, .str p.2))
    c.plainKeys c.slug false = .ok c.configuration
  secretRefs : ∀ c ∈ d.components, validateValues (c.secretRefs.map fun p => (p.1, .str p.2))
    c.secretKeys c.slug true = .ok c.secretRefs
  scaling : ∀ c ∈ d.components, scalingPolicy (some c.scaling.toJson.sortKeys) c.slug
    settings.maxReplicas = .ok c.scaling

theorem desiredComponent_eq_ok {configuration secretRefs : List (String × List (String × Json))}
    {scaling : Json} {m : ManifestComponent} {c : Component}
    (h : desiredComponent settings configuration secretRefs scaling m = .ok c) :
    validateValues (c.configuration.map fun p => (p.1, .str p.2)) c.plainKeys c.slug false =
        .ok c.configuration ∧
      validateValues (c.secretRefs.map fun p => (p.1, .str p.2)) c.secretKeys c.slug true =
        .ok c.secretRefs ∧
      scalingPolicy (some c.scaling.toJson.sortKeys) c.slug settings.maxReplicas =
        .ok c.scaling := by
  obtain ⟨plain, hplain, h⟩ := bind_eq_ok.1 h
  obtain ⟨secret, hsecret, h⟩ := bind_eq_ok.1 h
  obtain ⟨policy, hpolicy, h⟩ := bind_eq_ok.1 h
  cases h
  rw [← validateValues_eq_ok hplain, ← validateValues_eq_ok hsecret]
  exact ⟨hplain, hsecret, scalingPolicy_toJson hpolicy⟩

theorem accepted_of_parse (h : parseDesiredDeployment settings allowAbsent v = .ok d) :
    Accepted settings d := by
  have hparsed := parsed_of_parse h
  simp only [parseDesiredDeployment, bind_eq_ok] at h
  obtain ⟨payload, -, -, -, _, -, _, -, _, -, _, -, release, -, -, -, manifest, hmanifest, _, -, -,
    -, parsed, hmodules, configuration, -, secretRefs, -, scaling, -, -, -, -, -, -, -, -, -,
    components, hcomponents, h⟩ := h
  cases h
  obtain ⟨-, kvs, rfl⟩ := object_eq_ok hmanifest
  obtain ⟨rfl, -⟩ := desiredComponents_eq_ok hcomponents
  have hcomponent : ∀ c ∈ components, desiredComponent settings configuration secretRefs scaling
      c.toManifestComponent = .ok c := by
    have hall := forall₂_of_mapM hcomponents
    rw [List.forall₂_map_left_iff, List.forall₂_same] at hall
    exact hall
  refine ⟨hparsed.canonical, hparsed.managed, hparsed.positive, rfl, hparsed.digest, hmodules,
    fun c hc => ?_, fun c hc => ?_, fun c hc => ?_⟩
  · exact (desiredComponent_eq_ok (hcomponent c hc)).1
  · exact (desiredComponent_eq_ok (hcomponent c hc)).2.1
  · exact (desiredComponent_eq_ok (hcomponent c hc)).2.2

/-- Deleting a deployment keeps what its checks have established. -/
theorem Accepted.deletionDesired (h : Accepted settings d) {generation : ℕ}
    (hg : 1 ≤ generation) : Accepted settings (deletionDesired d generation) :=
  { h with positive := hg }

/-! ### The stored payload -/

/-- Two components that differ in the order of their values only. -/
structure SameComponent (c c' : Component) : Prop where
  manifest : c'.toManifestComponent = c.toManifestComponent
  configuration : c'.configuration.Perm c.configuration
  secretRefs : c'.secretRefs.Perm c.secretRefs
  scaling : c'.scaling = c.scaling

/-- The members of an object. -/
def members : Json → List (String × Json)
  | .obj kvs => kvs
  | _ => []

theorem componentMapping_obj {kvs : List (String × Json)} (label : String)
    (h : ∀ p ∈ kvs, isComponentSlug p.1 = true ∧ p.2.isObj = true) :
    componentMapping (some (.obj kvs)) label = .ok (kvs.map fun p => (p.1, members p.2)) := by
  simp only [componentMapping, object, ok_bind]
  induction kvs with
  | nil => rfl
  | cons p kvs ih =>
    obtain ⟨slug, value⟩ := p
    rw [List.forall_mem_cons] at h
    obtain ⟨⟨hslug, hvalue⟩, hkvs⟩ := h
    cases value with
    | obj entries =>
      simp only [List.map_cons, List.mapM_cons, hslug, ensure_true, ok_bind, ih hkvs]
      rfl
    | _ => cases hvalue

theorem knownSlugs_of_subset {label : String} {slugs expected : List String}
    (h : slugs ⊆ expected) : knownSlugs label slugs expected = .ok () := by
  have hunknown : (slugs.filter fun s => !expected.contains s) = [] := by
    simp only [List.filter_eq_nil_iff, Bool.not_eq_true', Bool.not_eq_false, List.contains_iff_mem]
    exact fun s hs => h hs
  simp only [knownSlugs, hunknown]
  rfl

theorem sortKeys_stringMap (kvs : List (String × String)) :
    ∃ lws, lws.Perm kvs ∧ (stringMap kvs).sortKeys = stringMap lws := by
  obtain ⟨ks, hks, hperm, -⟩ := sortKeys_obj (kvs.map fun p => (p.1, .str p.2))
  have hperm' : ks.Perm (kvs.map fun p => (p.1, Json.str p.2)) := by
    simpa [List.map_map, Function.comp_def] using hperm
  obtain ⟨lws, rfl, hlws⟩ : (Relation.Comp (fun as bs => as = bs.map fun p => (p.1, Json.str p.2))
      List.Perm) ks kvs := by rwa [List.eq_map_comp_perm]
  exact ⟨lws, hlws, hks⟩

theorem Accepted.isComponentSlug (h : Accepted settings d) {c : Component} (hc : c ∈ d.components) :
    Hosting.isComponentSlug c.slug = true :=
  parseManifest_slugs h.parsed c.toManifestComponent (List.mem_map_of_mem hc)

theorem Accepted.desiredComponent_stored (h : Accepted settings d)
    {configuration secretRefs : List (String × List (String × Json))} {scaling : Json}
    {c : Component} (hc : c ∈ d.components)
    (hconfiguration : ∃ lws : List (String × String), lws.Perm c.configuration ∧
      (configuration.lookup c.slug).getD [] = lws.map fun p => (p.1, .str p.2))
    (hsecretRefs : ∃ lws : List (String × String), lws.Perm c.secretRefs ∧
      (secretRefs.lookup c.slug).getD [] = lws.map fun p => (p.1, .str p.2))
    (hscaling : scaling.get? c.slug = some c.scaling.toJson.sortKeys) :
    ∃ c', desiredComponent settings configuration secretRefs scaling c.toManifestComponent =
      .ok c' ∧ SameComponent c c' := by
  obtain ⟨plain, hplain, hplainEq⟩ := hconfiguration
  obtain ⟨secret, hsecret, hsecretEq⟩ := hsecretRefs
  refine ⟨⟨c.toManifestComponent, plain, secret, c.scaling⟩, ?_, ⟨rfl, hplain, hsecret, rfl⟩⟩
  rw [desiredComponent, hplainEq, validateValues_perm hplain (h.configuration c hc), ok_bind,
    hsecretEq, validateValues_perm hsecret (h.secretRefs c hc), ok_bind, hscaling,
    h.scaling c hc]
  rfl

section Restore

variable (h : Accepted settings d) (hd : WellFormed r d)

include h hd

theorem Accepted.stored_byComponent (field : String) {f : Component → Json}
    (hfield : d.normalizedPayload.get? field = some (byComponent d.components f))
    (hf : ∀ c ∈ d.components, (f c).isObj = true) :
    ∃ kvs, d.normalizedPayload.sortKeys.get? field = some (.obj kvs) ∧
      (kvs.map Prod.fst).Perm (d.components.map (·.slug)) ∧
      ∀ p ∈ kvs, Hosting.isComponentSlug p.1 = true ∧ p.2.isObj = true := by
  obtain ⟨kvs, hkvs, hperm, -⟩ := sortKeys_obj (d.components.map fun c => (c.slug, f c))
  refine ⟨kvs, ?_, ?_, fun p hp => ?_⟩
  · rw [hd.get?_stored field hfield, byComponent, hkvs]
  · simpa [List.map_map, Function.comp_def] using hperm.map Prod.fst
  · have hmem := hperm.subset hp
    simp only [List.map_map, List.mem_map, Function.comp_apply] at hmem
    obtain ⟨c, hc, rfl⟩ := hmem
    exact ⟨h.isComponentSlug hc, by rw [isObj_sortKeys, hf c hc]⟩

/-- A stored mapping of values is accepted, with the values of each component. -/
theorem Accepted.componentMapping_stored (field label : String)
    {values : Component → List (String × String)}
    (hfield : d.normalizedPayload.get? field =
      some (byComponent d.components fun c => stringMap (values c))) :
    ∃ mapping, componentMapping (d.normalizedPayload.sortKeys.get? field) label = .ok mapping ∧
      mapping.map Prod.fst ⊆ d.components.map (·.slug) ∧
      ∀ c ∈ d.components, ∃ lws : List (String × String), lws.Perm (values c) ∧
        (mapping.lookup c.slug).getD [] = lws.map fun p => (p.1, .str p.2) := by
  obtain ⟨kvs, hkvs, hperm, hall⟩ := h.stored_byComponent hd field hfield fun _ _ => rfl
  have hmapping := componentMapping_obj label hall
  rw [← hkvs] at hmapping
  refine ⟨_, hmapping, fun slug hslug => ?_, fun c hc => ?_⟩
  · rw [List.map_map] at hslug
    exact hperm.subset hslug
  · obtain ⟨lws, hlws, hsorted⟩ := sortKeys_stringMap (values c)
    obtain ⟨m, hm, hget⟩ := hd.get?_stored_byComponent field hfield hc
    refine ⟨lws, hlws, ?_⟩
    rw [componentMapping_eq_ok hmapping, entriesOf, hm, Option.bind_some, hget, hsorted]
    rfl

omit h in
theorem WellFormed.get?_header {k : String} {x : Json}
    (hk : (normalizedPayload d.deploymentId d.environment d.generation d.desiredState
      d.releaseDigest d.manifest d.components).get? k = some x) :
    d.normalizedPayload.sortKeys.get? k = some x.sortKeys :=
  hd.get?_stored k (by rw [hd.normalized, hk])

omit h in
theorem WellFormed.get?_release : ∃ release, release.isObj = true ∧
    d.normalizedPayload.sortKeys.get? "release" = some release ∧
    exactFields release ["digest", "manifest"] "Release" = .ok () ∧
    release.get? "digest" = some (.str d.releaseDigest) ∧
    release.get? "manifest" = some d.manifest.sortKeys := by
  set release := Json.obj [("digest", .str d.releaseDigest), ("manifest", d.manifest)]
  have hnodup : release.keys.Nodup := by simp [release, keys]
  refine ⟨release.sortKeys, by rw [isObj_sortKeys]; rfl, hd.get?_header rfl,
    exactFields_sortKeys (by rfl), ?_, ?_⟩
  · rw [get?_sortKeys hnodup, ← sortKeys_str]
    rfl
  · rw [get?_sortKeys hnodup]
    rfl

theorem Accepted.mapM_stored {configuration secretRefs : List (String × List (String × Json))}
    (hconfiguration : ∀ c ∈ d.components, ∃ lws : List (String × String),
      lws.Perm c.configuration ∧
        (configuration.lookup c.slug).getD [] = lws.map fun p => (p.1, .str p.2))
    (hsecretRefs : ∀ c ∈ d.components, ∃ lws : List (String × String), lws.Perm c.secretRefs ∧
      (secretRefs.lookup c.slug).getD [] = lws.map fun p => (p.1, .str p.2))
    {scaling : Json} (hscaling : d.normalizedPayload.sortKeys.get? "scaling" = some scaling) :
    ∃ components, (d.components.map (·.toManifestComponent)).mapM
        (desiredComponent settings configuration secretRefs scaling) = .ok components ∧
      List.Forall₂ SameComponent d.components components := by
  rw [List.mapM_map]
  refine exists_mapM fun c hc => ?_
  refine h.desiredComponent_stored hc (hconfiguration c hc) (hsecretRefs c hc) ?_
  obtain ⟨m, hm, hget⟩ := hd.get?_stored_byComponent "scaling" (f := fun c => c.scaling.toJson)
    (by rw [hd.normalized]; rfl) hc
  rw [hscaling] at hm
  rw [Option.some.inj hm, hget]

/-- **The stored payload passes every check again**, with the components in their order. -/
theorem Accepted.restore : ∃ d', parseDesiredDeployment settings true d.normalizedPayload.sortKeys =
    .ok d' ∧ List.Forall₂ SameComponent d.components d'.components ∧
      d'.manifest = d.manifest.sortKeys := by
  -- the checks of `parseDesiredDeployment`, one after the other, on the stored payload
  set w := d.normalizedPayload.sortKeys
  have hobject : object (some w) "Runtime payload" = .ok w :=
    object_of_isObj (by rw [isObj_sortKeys, hd.normalized]; rfl) _
  have hfields : exactFields w ["deployment_id", "environment", "generation", "desired_state",
      "release", "configuration", "secret_refs", "scaling"] "Runtime payload" = .ok () :=
    exactFields_sortKeys (by rw [hd.normalized]; rfl)
  have hid : validateDeploymentId (w.get? "deployment_id") = .ok d.deploymentId := by
    rw [hd.get?_header rfl, sortKeys_str]
    simp only [validateDeploymentId, h.canonical, if_true]
  have henvironment : ∀ e : ControllerError, stringField (w.get? "environment")
      (· == settings.environment) e = .ok d.environment := by
    intro e
    rw [hd.get?_header rfl, sortKeys_str]
    simp only [stringField, h.managed, beq_self_eq_true, if_true]
  have hgeneration : positiveInt (w.get? "generation") "generation" = .ok d.generation := by
    rw [hd.get?_header rfl, sortKeys_int]
    exact positiveInt_natCast h.positive _
  have hstate : desiredStateField (w.get? "desired_state") true = .ok d.desiredState := by
    rw [hd.get?_header rfl, sortKeys_str]
    cases d.desiredState <;> rfl
  obtain ⟨release, hrelease, hget, hreleaseFields, hdigest, hmanifest⟩ := hd.get?_release
  have hhex : ∀ e : ControllerError, stringField (release.get? "digest") isHexDigest e =
      .ok d.releaseDigest := by
    intro e
    have hhex : isHexDigest d.releaseDigest = true := h.digest ▸ isHexDigest_sha256Json _
    simp only [hdigest, stringField, hhex, if_true]
  have hmatch : (sha256Json d.manifest.sortKeys == d.releaseDigest) = true := by
    rw [sha256Json_sortKeys hd.manifest, h.digest, beq_self_eq_true]
  obtain ⟨configuration, hconfiguration, hplainSlugs, hplain⟩ := h.componentMapping_stored hd
    "configuration" "Configuration" (by rw [hd.normalized]; rfl)
  obtain ⟨secretRefs, hsecretRefs, hsecretSlugs, hsecret⟩ := h.componentMapping_stored hd
    "secret_refs" "Secret references" (by rw [hd.normalized]; rfl)
  obtain ⟨kvs, hscaling, hperm, -⟩ := h.stored_byComponent hd "scaling"
    (f := fun c => c.scaling.toJson) (by rw [hd.normalized]; rfl)
    fun c _ => by cases c.scaling <;> rfl
  obtain ⟨components, hcomponents, hsame⟩ := h.mapM_stored hd hplain hsecret hscaling
  have hslugs : (d.components.map (·.toManifestComponent)).map (·.slug) =
      d.components.map (·.slug) := by
    rw [List.map_map]
    rfl
  have hcomplete : ((d.components.map (·.toManifestComponent)).map (·.slug)).all
      ((Json.obj kvs).keys.contains ·) = true := by
    rw [hslugs, List.all_eq_true]
    exact fun slug hslug => List.contains_iff_mem.2 (hperm.symm.subset hslug)
  have hscalingSlugs : (Json.obj kvs).keys ⊆
      (d.components.map (·.toManifestComponent)).map (·.slug) := hslugs ▸ hperm.subset
  refine ⟨⟨d.deploymentId, d.environment, d.generation, d.desiredState, d.releaseDigest,
    d.manifest.sortKeys, components, normalizedPayload d.deploymentId d.environment d.generation
    d.desiredState d.releaseDigest d.manifest.sortKeys components⟩, ?_, hsame, rfl⟩
  rw [parseDesiredDeployment, hobject, ok_bind, hfields, ok_bind, hid, ok_bind, henvironment,
    ok_bind, hgeneration, ok_bind, hstate, ok_bind, hget, object_of_isObj hrelease, ok_bind,
    hreleaseFields, ok_bind, hmanifest, object_of_isObj (by rw [isObj_sortKeys, h.isObj]), ok_bind,
    hhex, ok_bind, hmatch, ensure_true, ok_bind, parseManifest_sortKeys hd.manifest h.parsed,
    ok_bind, hconfiguration, ok_bind, hsecretRefs, ok_bind, hscaling, object_of_isObj rfl, ok_bind]
  simp only [knownSlugs_of_subset (hslugs ▸ hplainSlugs),
    knownSlugs_of_subset (hslugs ▸ hsecretSlugs),
    knownSlugs_of_subset hscalingSlugs, hcomplete, hcomponents, ensure_true, ok_bind]
  rfl

end Restore

/-! ### What was accepted is read back -/

/-- A deployment that the controller has parsed from a JSON text, a request body or a stored
payload. -/
def Requested (settings : ControllerSettings) (py : FloatReader) (d : DesiredDeployment) : Prop :=
  ∃ (reader : Reader) (depth : ℕ) (text : List Char) (v : Json) (allowAbsent : Bool),
    reader.toFloatReader = py ∧ loads reader depth text = .ok v ∧
      parseDesiredDeployment settings allowAbsent v = .ok d

/-- Equality of deployments in Python, where the order of keys does not count. -/
structure Equal (d d' : DesiredDeployment) : Prop extends SameDesired d d' where
  values : List.Forall₂ SameComponent d.components d'.components
  manifest : d'.manifest.sortKeys = d.manifest.sortKeys

variable {py : FloatReader} {e : DesiredDeployment}

theorem Requested.accepted (h : Requested settings py d) :
    Accepted settings d ∧ WellFormed py d := by
  obtain ⟨reader, depth, text, v, allowAbsent, rfl, hloads, hparse⟩ := h
  exact ⟨accepted_of_parse hparse,
    (parsed_of_parse hparse).wellFormed (readable_of_loads hloads)⟩

/-- A record of an accepted deployment gives the deployment back. -/
theorem IsRecord.restore {phase : Phase} {state : Resource} (hstate : IsRecord d phase state)
    (h : Accepted settings d) (hd : WellFormed py d) :
    ∃ d', desiredFromState settings py state = .ok d' ∧ Equal d d' := by
  obtain ⟨d', hparse, hvalues, hmanifest⟩ := h.restore hd
  rw [← hstate.desiredFromState_eq hd] at hparse
  exact ⟨d', hparse, hstate.same hd hparse, hvalues,
    by rw [hmanifest, sortKeys_sortKeys hd.manifest]⟩

theorem isRecord_stateConfigMap (d : DesiredDeployment) (phase : Phase) (requestId : String) :
    IsRecord d phase (stateConfigMap d phase requestId) := by
  refine ⟨?_, rfl, rfl⟩
  have hmanaged : (commonLabels d).lookup managedByLabel = some managedBy := rfl
  have hdeployment : (commonLabels d).lookup deploymentLabel = some d.deploymentId := rfl
  simp only [ownedBy, stateConfigMap, hmanaged, hdeployment, beq_self_eq_true, Bool.and_self]

theorem SameDesired.payloadDigest (h : SameDesired d d') :
    sha256Json d'.normalizedPayload = sha256Json d.normalizedPayload := by
  rw [sha256Json, sha256Json, canonical, canonical, h.normalized]

/-- **What was accepted is read back from the state object**: the same deployment with the same
payload digest, so that a replay of its generation is admitted. -/
theorem stored_state_reads_back (h : Requested settings py d)
    (he : e = d ∨ ∃ f, Requested settings py f ∧ e = deletionDesired d f.generation)
    (phase : Phase) (requestId : String) :
    ∃ d', desiredFromState settings py (stateConfigMap e phase requestId) = .ok d' ∧ Equal e d' ∧
      sha256Json d'.normalizedPayload = sha256Json e.normalizedPayload ∧
      (phase ≠ .deleting → phase ≠ .deleted →
        admitDeploy settings py e (stateConfigMap e phase requestId) = .ok ()) := by
  obtain ⟨haccepted, hwell⟩ : Accepted settings e ∧ WellFormed py e := by
    rcases he with rfl | ⟨f, hf, rfl⟩
    · exact h.accepted
    · obtain ⟨hd, hdwell⟩ := h.accepted
      obtain ⟨hf, hfwell⟩ := hf.accepted
      exact ⟨hd.deletionDesired hf.positive, hdwell.deletionDesired hfwell.generation⟩
  have hrecord := isRecord_stateConfigMap e phase requestId
  obtain ⟨d', hd', hequal⟩ := hrecord.restore haccepted hwell
  have hdigest := hequal.payloadDigest
  refine ⟨d', hd', hequal, hdigest, fun hdeleting hdeleted => ?_⟩
  have hlive : (phase != .deleting && phase != .deleted) = true := by simp [hdeleting, hdeleted]
  simp only [admitDeploy, hd', hrecord.phaseOf, ok_bind, hlive, hequal.generation, hdigest, le_refl,
    decide_true, beq_self_eq_true, Bool.or_true, ensure_true]

theorem requested_sample :
    Requested sampleSettings sampleReader (sampleDesired 1 .running "web" "hello") :=
  ⟨.unique sampleReader, _, _, _, true, rfl, loads_dumps (readable_sample (by decide)) le_rfl,
    parse_sample isSample_hello le_rfl fun _ => rfl⟩

/-- The sample deployment is read back, also once it is being deleted. -/
theorem stored_state_reads_back_sample :
    (∃ d', desiredFromState sampleSettings sampleReader (stateConfigMap
        (sampleDesired 1 .running "web" "hello") .active "request-1") =
      .ok d' ∧ d'.desiredState = .running) ∧
    ∃ d', desiredFromState sampleSettings sampleReader (stateConfigMap (deletionDesired
        (sampleDesired 1 .running "web" "hello") 1) .deleting "request-2") =
      .ok d' ∧ d'.desiredState = .absent := by
  obtain ⟨d, hd, hequal, -⟩ := stored_state_reads_back requested_sample (.inl rfl) .active
    "request-1"
  obtain ⟨d', hd', hequal', -⟩ := stored_state_reads_back requested_sample
    (.inr ⟨_, requested_sample, rfl⟩) .deleting "request-2"
  exact ⟨⟨d, hd, hequal.desiredState⟩, ⟨d', hd', hequal'.desiredState⟩⟩

end ArchiDeal.Reconciler
