import ArchiDeal.Reconciler.Record

/-!
# Kubernetes identities

The names and the label values of the objects of a deployment, against the rules of Kubernetes: a
name is a DNS-1035 label, and a label value starts and ends with a letter or a digit.

A name is put together from a fixed prefix, hashes and a trimmed slug, and always fits. A label has
the slug as it is, and `_COMPONENT_SLUG` allows a hyphen at the end.

`identities_valid_iff`: the identities of an accepted deployment are valid exactly if no slug ends
with a hyphen.
-/

namespace ArchiDeal.Reconciler

open Text Hosting

/-! ### The rules of Kubernetes -/

/-- `[-a-z0-9]`. -/
def labelChar (c : Char) : Bool := lowerDigit c || c == '-'

/-- A DNS-1035 label: `[a-z]([-a-z0-9]*[a-z0-9])?`, at most 63 characters. -/
def isDns1035Label (s : String) : Bool :=
  s.toList.length ≤ 63 && (s.toList.head?.any fun c => 'a' ≤ c && c ≤ 'z') &&
    s.toList.all labelChar && s.toList.getLast?.any lowerDigit

/-- A label value: `[A-Za-z0-9]([-A-Za-z0-9_.]*[A-Za-z0-9])?`, at most 63 characters. -/
def isLabelValue (s : String) : Bool :=
  s.toList.length ≤ 63 && s.toList.head?.any alphaDigit &&
    (s.toList.all fun c => alphaDigit c || c == '-' || c == '_' || c == '.') &&
    s.toList.getLast?.any alphaDigit

/-! ### The identities of a deployment -/

def leaseName (deploymentId : String) : String :=
  "dealrt-" ++ take 24 (sha256Hex deploymentId) ++ "-lock"

/-- Every `metadata.name`. -/
def metadataNames (d : DesiredDeployment) : List String :=
  stateName d.deploymentId :: leaseName d.deploymentId :: d.components.flatMap fun c =>
    [componentName d.deploymentId c.slug, componentName d.deploymentId c.slug "-cfg"]

/-- The labels of the objects, and of the pods. -/
def labelSets (d : DesiredDeployment) : List (List (String × String)) :=
  commonLabels d :: d.components.flatMap fun c =>
    [commonLabels d (some c), commonLabels d (some c) ++
      [("archideal.io/runtime-workload", componentName d.deploymentId c.slug)]]

def isDnsLabel (s : String) : Bool := edged lowerDigit labelChar s.toList && s.length ≤ 63

/-- `ControllerSettings.validate`, on the fields that the reconciler reads. -/
def ControllerSettings.validate (settings : ControllerSettings) : Bool :=
  [settings.environment, settings.namespaceName, settings.workloadServiceAccount,
      settings.secretCatalogNamespace, settings.secretNamePrefix,
      settings.secretCatalogName].all isDnsLabel &&
    (settings.imagePullSecret == "" || isDnsLabel settings.imagePullSecret) &&
    !settings.allowedImagePrefixes.isEmpty &&
    (settings.allowedImagePrefixes.all fun p =>
      p.toList.getLast? == some '/' && !p.toList.contains '@' && !hasSpace p) &&
    (1 ≤ settings.maxReplicas && settings.maxReplicas ≤ 100)

/-! ### Characters -/

theorem lowerDigit_of_hexDigit {c : Char} (h : hexDigit c = true) : lowerDigit c = true := by
  simp only [hexDigit, lowerDigit, Bool.or_eq_true, Bool.and_eq_true, decide_eq_true_eq] at h ⊢
  rcases h with h | ⟨h₁, h₂⟩
  · exact .inr h
  · exact .inl ⟨h₁, h₂.trans (by decide)⟩

theorem labelChar_of_hexDigit {c : Char} (h : hexDigit c = true) : labelChar c = true := by
  rw [labelChar, lowerDigit_of_hexDigit h, Bool.true_or]

theorem alphaDigit_of_lowerDigit {c : Char} (h : lowerDigit c = true) : alphaDigit c = true := by
  rw [alphaDigit, h, Bool.true_or]

/-- A label character that is not a hyphen is a letter or a digit. -/
theorem lowerDigit_of_labelChar {c : Char} (h : labelChar c = true) (hc : c ≠ '-') :
    lowerDigit c = true := by
  simpa [labelChar, hc] using h

theorem alphaDigit_hyphen : alphaDigit '-' = false := by decide

/-! ### Names -/

theorem getLast?_any {l : List Char} {p : Char → Bool} (hne : l ≠ []) (h : ∀ c ∈ l, p c = true) :
    l.getLast?.any p = true := by
  rw [List.getLast?_eq_some_getLast hne]
  exact h _ (List.getLast_mem hne)

theorem take_sha256Hex (n : ℕ) (s : String) :
    (take n (sha256Hex s)).toList.length = min n 64 ∧
      ∀ c ∈ (take n (sha256Hex s)).toList, hexDigit c = true := by
  have h := Sha256.isHexDigest_hexdigest (encode s.toList)
  simp only [isHexDigest, Bool.and_eq_true, beq_iff_eq, List.all_eq_true] at h
  simp only [take, sha256Hex, String.toList_ofList, List.length_take, h.1, true_and]
  exact fun c hc => h.2 c (List.mem_of_mem_take hc)

theorem isDns1035Label_of_parts {s : String} {body tail : List Char}
    (hs : s.toList = "dealrt-".toList ++ (body ++ tail)) (hbody : ∀ c ∈ body, labelChar c = true)
    (htail : ∀ c ∈ tail, labelChar c = true) (hlast : tail.getLast?.any lowerDigit = true)
    (hlen : body.length + tail.length ≤ 56) : isDns1035Label s = true := by
  have hne : tail ≠ [] := by
    rintro rfl
    cases hlast
  have hall : ∀ c ∈ "dealrt-".toList, labelChar c = true := List.all_eq_true.1 (by decide)
  simp only [isDns1035Label, hs, Bool.and_eq_true, decide_eq_true_eq, List.all_append,
    List.all_eq_true]
  refine ⟨⟨⟨?_, rfl⟩, hall, hbody, htail⟩, ?_⟩
  · have hprefix : "dealrt-".toList.length = 7 := rfl
    simp only [List.length_append, hprefix]
    omega
  · rw [List.getLast?_append_of_ne_nil _ (by simp [hne]), List.getLast?_append_of_ne_nil _ hne]
    exact hlast

theorem isDns1035Label_digest (n : ℕ) (hn : n ≤ 50) (id : String) {tail : String}
    (htail : ∀ c ∈ tail.toList, labelChar c = true)
    (hlast : tail.toList.getLast?.any lowerDigit = true) (hlen : tail.toList.length ≤ 6) :
    isDns1035Label ("dealrt-" ++ take n (sha256Hex id) ++ tail) = true := by
  obtain ⟨hlength, hdigits⟩ := take_sha256Hex n id
  refine isDns1035Label_of_parts (by rw [String.toList_append, String.toList_append,
    List.append_assoc]) (fun c hc => labelChar_of_hexDigit (hdigits c hc)) htail hlast ?_
  omega

theorem isDns1035Label_stateName (id : String) : isDns1035Label (stateName id) = true :=
  isDns1035Label_digest 24 (by decide) id (List.all_eq_true.1 (by decide)) (by decide) (by decide)

theorem isDns1035Label_leaseName (id : String) : isDns1035Label (leaseName id) = true :=
  isDns1035Label_digest 24 (by decide) id (List.all_eq_true.1 (by decide)) (by decide) (by decide)

theorem sublist_rstripHyphens (s : String) : (rstripHyphens s).toList.Sublist s.toList := by
  rw [rstripHyphens, String.toList_ofList, ← List.reverse_sublist, List.reverse_reverse]
  exact List.dropWhile_sublist _

theorem isDns1035Label_componentName {slug : String} (hslug : ∀ c ∈ slug.toList, labelChar c = true)
    (id : String) {suffix : String} (hsuffix : suffix = "" ∨ suffix = "-cfg") :
    isDns1035Label (componentName id slug suffix) = true := by
  obtain ⟨hidLength, hid⟩ := take_sha256Hex 20 id
  obtain ⟨hhashLength, hhash⟩ := take_sha256Hex 8 slug
  have htrimmed := sublist_rstripHyphens (take (63 - (37 + suffix.length)) slug)
  have hlength : (rstripHyphens (take (63 - (37 + suffix.length)) slug)).toList.length ≤
      63 - (37 + suffix.length) := by
    refine htrimmed.length_le.trans ?_
    rw [take, String.toList_ofList, List.length_take]
    exact min_le_left _ _
  have hname : (componentName id slug suffix).toList = "dealrt-".toList ++
      (((take 20 (sha256Hex id)).toList ++ '-' ::
        ((rstripHyphens (take (63 - (37 + suffix.length)) slug)).toList ++ ['-'])) ++
      ((take 8 (sha256Hex slug)).toList ++ suffix.toList)) := by
    have hhyphen : "-".toList = ['-'] := rfl
    simp only [componentName, String.toList_append, List.append_assoc, hhyphen, List.cons_append,
      List.nil_append]
  have hsuffixChars : ∀ c ∈ suffix.toList, labelChar c = true := by
    rcases hsuffix with rfl | rfl <;> exact List.all_eq_true.1 (by decide)
  refine isDns1035Label_of_parts hname ?_ ?_ ?_ ?_
  · intro c hc
    simp only [List.mem_append, List.mem_cons, List.not_mem_nil, or_false] at hc
    rcases hc with hc | rfl | hc | rfl
    · exact labelChar_of_hexDigit (hid c hc)
    · decide
    · have hmem := htrimmed.subset hc
      rw [take, String.toList_ofList] at hmem
      exact hslug c (List.mem_of_mem_take hmem)
    · decide
  · intro c hc
    rcases List.mem_append.1 hc with hc | hc
    · exact labelChar_of_hexDigit (hhash c hc)
    · exact hsuffixChars c hc
  · rcases hsuffix with rfl | rfl
    · -- the name ends with a digit of the hash
      have hempty : "".toList = [] := rfl
      rw [hempty, List.append_nil]
      exact getLast?_any (List.ne_nil_of_length_pos (by omega)) fun c hc =>
        lowerDigit_of_hexDigit (hhash c hc)
    · rw [List.getLast?_append_of_ne_nil _ (by decide)]
      decide
  · have hsuffixLength : suffix.toList.length = suffix.length := String.length_toList
    have hshort : suffix.length ≤ 4 := by rcases hsuffix with rfl | rfl <;> decide
    simp only [List.length_append, List.length_cons, List.length_nil, hidLength, hhashLength,
      hsuffixLength]
    omega

/-! ### Label values -/

/-- What a label value is made of, if its characters are label characters. -/
theorem isLabelValue_of_labelChars {s : String} (hlen : s.toList.length ≤ 63)
    (hhead : s.toList.head?.any lowerDigit = true) (hall : ∀ c ∈ s.toList, labelChar c = true)
    (hlast : s.toList.getLast?.any lowerDigit = true) : isLabelValue s = true := by
  simp only [isLabelValue, Bool.and_eq_true, decide_eq_true_eq, List.all_eq_true,
    Option.any_eq_true] at hhead hlast ⊢
  obtain ⟨c, hc, hletter⟩ := hhead
  obtain ⟨l, hl, hlast⟩ := hlast
  refine ⟨⟨⟨hlen, c, hc, alphaDigit_of_lowerDigit hletter⟩, fun x hx => ?_⟩, l, hl,
    alphaDigit_of_lowerDigit hlast⟩
  have := hall x hx
  simp only [labelChar, Bool.or_eq_true] at this ⊢
  rcases this with hx | hx
  · exact .inl (.inl (.inl (alphaDigit_of_lowerDigit hx)))
  · exact .inl (.inl (.inr hx))

theorem isLabelValue_of_isDns1035Label {s : String} (h : isDns1035Label s = true) :
    isLabelValue s = true := by
  simp only [isDns1035Label, Bool.and_eq_true, decide_eq_true_eq, List.all_eq_true] at h
  obtain ⟨⟨⟨hlen, hhead⟩, hall⟩, hlast⟩ := h
  refine isLabelValue_of_labelChars hlen ?_ hall hlast
  obtain ⟨c, hc, hletter⟩ := (Option.any_eq_true _ _).1 hhead
  rw [hc]
  simp [lowerDigit, hletter]

theorem isLabelValue_of_isDnsLabel {s : String} (h : isDnsLabel s = true) :
    isLabelValue s = true := by
  simp only [isDnsLabel, Bool.and_eq_true, decide_eq_true_eq] at h
  obtain ⟨hedged, hlen⟩ := h
  cases hs : s.toList with
  | nil =>
    rw [hs] at hedged
    cases hedged
  | cons c cs =>
    have hlength : s.toList.length ≤ 63 := String.length_toList ▸ hlen
    rw [hs] at hedged
    simp only [edged, Bool.and_eq_true, Bool.or_eq_true, List.isEmpty_iff,
      List.all_eq_true] at hedged
    obtain ⟨hc, hrest⟩ := hedged
    -- all characters of the label are inner ones or its last one
    have hlabel : labelChar c = true := by rw [labelChar, hc, Bool.true_or]
    refine isLabelValue_of_labelChars hlength (by rw [hs]; exact hc) (fun x hx => ?_) ?_
    · rw [hs] at hx
      rcases List.mem_cons.1 hx with rfl | hx
      · exact hlabel
      · rcases hrest with rfl | ⟨hinner, hlast⟩
        · cases hx
        · have hne : cs ≠ [] := List.ne_nil_of_mem hx
          rw [← List.dropLast_append_getLast hne, List.mem_append, List.mem_singleton] at hx
          rcases hx with hx | rfl
          · exact hinner x hx
          · rw [List.getLast?_eq_some_getLast hne] at hlast
            rw [labelChar, show lowerDigit _ = true from hlast, Bool.true_or]
    · rw [hs]
      rcases hrest with rfl | ⟨-, hlast⟩
      · exact hc
      · rw [List.getLast?_cons]
        cases hl : cs.getLast? with
        | none =>
          rw [hl] at hlast
          cases hlast
        | some l =>
          rw [hl] at hlast
          exact hlast

theorem isLabelValue_of_isCanonicalUuid {s : String} (h : isCanonicalUuid s = true) :
    isLabelValue s = true := by
  simp only [isCanonicalUuid, Bool.and_eq_true, beq_iff_eq, List.all_eq_true, Prod.forall] at h
  obtain ⟨hlen, hall⟩ := h
  have hat : ∀ i (hi : i < s.toList.length), (s.toList[i], i) ∈ s.toList.zipIdx := fun i hi => by
    rw [List.mem_zipIdx_iff_getElem?]
    exact List.getElem?_eq_getElem hi
  have hfirst := hall _ _ (hat 0 (by omega))
  have hlast := hall _ _ (hat 35 (by omega))
  simp only [Nat.reduceEqDiff, or_self, if_false] at hfirst hlast
  refine isLabelValue_of_labelChars (by omega) ?_ (fun c hc => ?_) ?_
  · rw [List.head?_eq_getElem?, List.getElem?_eq_getElem (by omega)]
    exact lowerDigit_of_hexDigit hfirst
  · obtain ⟨i, hi, rfl⟩ := List.mem_iff_getElem.1 hc
    have hc := hall _ _ (hat i hi)
    split_ifs at hc with hhyphen
    · rw [beq_iff_eq.1 hc]
      decide
    · exact labelChar_of_hexDigit hc
  · rw [List.getLast?_eq_getElem?, List.getElem?_eq_getElem (by omega)]
    simp only [hlen, Option.any_some]
    exact lowerDigit_of_hexDigit hlast

section Slugs

variable {slug : String} (h : isComponentSlug slug = true)

include h

theorem isComponentSlug_spec : slug.toList ≠ [] ∧ slug.toList.length ≤ 63 ∧
    slug.toList.head?.any lowerDigit = true ∧ ∀ c ∈ slug.toList, labelChar c = true := by
  cases hs : slug.toList with
  | nil =>
    rw [isComponentSlug, hs] at h
    cases h
  | cons c cs =>
    simp only [isComponentSlug, hs, headed, Bool.and_eq_true, decide_eq_true_eq,
      List.all_eq_true] at h
    obtain ⟨⟨⟨hc, hall⟩, -⟩, hlen⟩ := h
    refine ⟨List.cons_ne_nil c cs, Nat.succ_le_succ hlen, hc, List.forall_mem_cons.2 ⟨?_, hall⟩⟩
    rw [labelChar, hc, Bool.true_or]

/-- A slug is a label value exactly if it does not end with a hyphen. -/
theorem isLabelValue_slug_iff : isLabelValue slug = true ↔ slug.toList.getLast? ≠ some '-' := by
  obtain ⟨hne, hlen, hhead, hall⟩ := isComponentSlug_spec h
  constructor
  · intro hvalue hhyphen
    simp only [isLabelValue, hhyphen, Option.any_some, alphaDigit_hyphen, Bool.and_false,
      Bool.false_eq_true] at hvalue
  · intro hlast
    refine isLabelValue_of_labelChars hlen hhead hall ?_
    rw [List.getLast?_eq_some_getLast hne] at hlast ⊢
    exact lowerDigit_of_labelChar (hall _ (List.getLast_mem hne)) fun hc => hlast (congrArg some hc)

end Slugs

/-! ### Accepted deployments -/

section Accepted

variable {settings : ControllerSettings} {allowAbsent : Bool} {v : Json} {d : DesiredDeployment}

theorem slugs_of_parse (h : parseDesiredDeployment settings allowAbsent v = .ok d) :
    ∀ c ∈ d.components, isComponentSlug c.slug = true := by
  simp only [parseDesiredDeployment, bind_eq_ok] at h
  obtain ⟨payload, -, -, -, deploymentId, -, environment, -, generation, -, state, -, release, -, -,
    -, manifest, -, digest, -, -, -, parsed, hparsed, configuration, -, secretRefs, -, scaling, -,
    -, -, -, -, -, -, -, -, components, hcomponents, h⟩ := h
  cases h
  have hslugs := parseManifest_slugs hparsed
  rw [← (desiredComponents_eq_ok hcomponents).1] at hslugs
  exact fun c hc => hslugs c.toManifestComponent (List.mem_map_of_mem hc)

theorem forall_commonLabels {p : String → Prop} {component : Option Component} :
    (∀ label ∈ commonLabels d component, p label.2) ↔
      p managedBy ∧ p "archideal-runtime" ∧ p d.deploymentId ∧ p d.environment ∧
        ∀ c, component = some c → p c.slug := by
  cases component with
  | none => simp [commonLabels]
  | some c => simp [commonLabels]

/-- **The identities of an accepted deployment** are valid exactly if no slug ends with a hyphen. -/
theorem identities_valid_iff (hsettings : settings.validate = true)
    (h : parseDesiredDeployment settings allowAbsent v = .ok d) :
    ((∀ name ∈ metadataNames d, isDns1035Label name = true) ∧
      ∀ labels ∈ labelSets d, ∀ label ∈ labels, isLabelValue label.2 = true) ↔
      ∀ c ∈ d.components, c.slug.toList.getLast? ≠ some '-' := by
  have hslugs := slugs_of_parse h
  have hparsed := parsed_of_parse h
  have hname : ∀ c ∈ d.components, ∀ suffix, suffix = "" ∨ suffix = "-cfg" →
      isDns1035Label (componentName d.deploymentId c.slug suffix) = true := fun c hc _ hsuffix =>
    isDns1035Label_componentName (isComponentSlug_spec (hslugs c hc)).2.2.2 d.deploymentId hsuffix
  have henvironment : isLabelValue d.environment = true := by
    simp only [ControllerSettings.validate, Bool.and_eq_true, List.all_cons] at hsettings
    rw [hparsed.managed]
    exact isLabelValue_of_isDnsLabel hsettings.1.1.1.1.1
  -- of the common labels only the slug may be no label value
  have hcommon : ∀ component : Option Component,
      (∀ label ∈ commonLabels d component, isLabelValue label.2 = true) ↔
        ∀ c, component = some c → isLabelValue c.slug = true := fun component => by
    have hconstants : isLabelValue managedBy = true ∧ isLabelValue "archideal-runtime" = true := by
      decide
    rw [forall_commonLabels (p := fun value => isLabelValue value = true)]
    simp only [hconstants, isLabelValue_of_isCanonicalUuid hparsed.canonical, henvironment,
      true_and]
  constructor
  · rintro ⟨-, hlabels⟩ c hc
    rw [← isLabelValue_slug_iff (hslugs c hc)]
    refine (hcommon (some c)).1 (hlabels _ ?_) c rfl
    exact .tail _ (List.mem_flatMap.2 ⟨c, hc, .head _⟩)
  · intro hhyphens
    refine ⟨fun name hname' => ?_, fun labels hlabels => ?_⟩
    · simp only [metadataNames, List.mem_cons, List.mem_flatMap, List.not_mem_nil,
        or_false] at hname'
      rcases hname' with rfl | rfl | ⟨c, hc, rfl | rfl⟩
      · exact isDns1035Label_stateName _
      · exact isDns1035Label_leaseName _
      · exact hname c hc "" (.inl rfl)
      · exact hname c hc "-cfg" (.inr rfl)
    · simp only [labelSets, List.mem_cons, List.mem_flatMap, List.not_mem_nil, or_false] at hlabels
      rcases hlabels with rfl | ⟨c, hc, hlabels⟩
      · exact (hcommon none).2 nofun
      · have hslug : ∀ label ∈ commonLabels d (some c), isLabelValue label.2 = true := by
          refine (hcommon (some c)).2 ?_
          rintro _ ⟨⟩
          exact (isLabelValue_slug_iff (hslugs c hc)).2 (hhyphens c hc)
        rcases hlabels with rfl | rfl
        · exact hslug
        · intro label hlabel
          rcases List.mem_append.1 hlabel with hlabel | hlabel
          · exact hslug label hlabel
          · rw [List.mem_singleton.1 hlabel]
            exact isLabelValue_of_isDns1035Label (hname c hc "" (.inl rfl))

end Accepted

/-! ### A slug that ends with a hyphen -/

theorem identities_valid_iff_web :
    (∀ name ∈ metadataNames (sampleDesired 1 .running "web" "hello"),
      isDns1035Label name = true) ∧
    ∀ labels ∈ labelSets (sampleDesired 1 .running "web" "hello"), ∀ label ∈ labels,
      isLabelValue label.2 = true := by
  have hparse : parseDesiredDeployment sampleSettings false
      (samplePayload 1 .running "web" "hello") = .ok (sampleDesired 1 .running "web" "hello") :=
    parse_sample isSample_hello le_rfl (by rintro ⟨⟩)
  refine (identities_valid_iff (by decide +kernel) hparse).2 fun c hc => ?_
  rw [List.mem_singleton.1 hc]
  decide

theorem isSample_hyphen : IsSample "web-" "hello" :=
  ⟨by decide +kernel, by decide +kernel, by decide, by decide, by decide⟩

theorem hyphen_in_label :
    sampleSettings.validate = true ∧
    parseDesiredDeployment sampleSettings false (samplePayload 1 .running "web-" "hello") =
      .ok (sampleDesired 1 .running "web-" "hello") ∧
    ∃ labels ∈ labelSets (sampleDesired 1 .running "web-" "hello"),
      (componentLabel, "web-") ∈ labels ∧ isLabelValue "web-" = false := by
  refine ⟨by decide +kernel, parse_sample isSample_hyphen le_rfl (by rintro ⟨⟩), commonLabels
    (sampleDesired 1 .running "web-" "hello")
    (some ⟨sampleComponent "web-", [("GREETING", "hello")], [], .fixed 1⟩), ?_, ?_, by decide⟩
  · exact .tail _ (List.mem_flatMap.2 ⟨_, .head _, .head _⟩)
  · simp [commonLabels, sampleComponent]

end ArchiDeal.Reconciler
