import ArchiDeal.Gateway.Paths
import ArchiDeal.Lib.JsonOrder
import ArchiDeal.Lib.Transition

/-!
# What was previewed is what is published

The entity tag of a dry run is the digest of the canonical JSON of its plan. A plan has few free
parts (its identifier, path, host and node), and all of them can be read back from the canonical
form, so that equal canonical forms come from equal plans (`eq_of_canonical`). Catalogue edits, dry
runs and conditional publications are then the steps of a session, which logs what every call has
built and sent.
-/

namespace ArchiDeal.Gateway

open Text Transition
open Catalogue (Module)

variable {py : Python} {service : Service}

/-! ### Reading a plan back from its canonical form -/

/-- Values with one sorted form have members with one sorted form. -/
theorem get?_of_sortKeys {v w : Json} (hv : v.keys.Nodup) (hw : w.keys.Nodup)
    (h : v.sortKeys = w.sortKeys) (k : String) :
    (v.get? k).map Json.sortKeys = (w.get? k).map Json.sortKeys := by
  rw [← Json.get?_sortKeys hv, h, Json.get?_sortKeys hw]

theorem member_of_sortKeys {v w x y : Json} (h : v.sortKeys = w.sortKeys) (hv : v.keys.Nodup)
    (hw : w.keys.Nodup) {k : String} (hx : v.get? k = some x) (hy : w.get? k = some y) :
    x.sortKeys = y.sortKeys := by
  have hk := get?_of_sortKeys hv hw h k
  rw [hx, hy] at hk
  exact Option.some.inj hk

theorem key_of_sortKeys {k l : String} {v w : Json}
    (h : (Json.obj [(k, v)]).sortKeys = (Json.obj [(l, w)]).sortKeys) : k = l := by
  simp only [Json.sortKeys, Json.sortMembers, List.insertionSort_cons, List.insertionSort_nil,
    List.orderedInsert_nil, Json.obj.injEq, List.cons.injEq, Prod.mk.injEq] at h
  exact h.1.1

section Payload

variable {debug debug' : Bool} {routeId routeId' path path' host host' : String} {port port' : ℤ}

/-- The rewriting of a route, which names its host. -/
def rewriteOf (debug : Bool) (path host : String) : Json :=
  ((plugins debug path host).get? "proxy-rewrite").getD .null

theorem nodup_keys_plugins : (plugins debug path host).keys.Nodup := by
  cases debug
  · exact (by decide : ["prometheus", "opentelemetry", "proxy-rewrite"].Nodup)
  · exact (by decide : ["proxy-rewrite"].Nodup)

theorem nodup_keys_rewrite : (rewriteOf debug path host).keys.Nodup := by
  cases debug
  · exact (by decide : ["regex_uri", "host", "headers"].Nodup)
  · exact (by decide : ["regex_uri", "host"].Nodup)

theorem get?_rewrite : (plugins debug path host).get? "proxy-rewrite" =
    some (rewriteOf debug path host) := by
  cases debug <;> rfl

theorem get?_host : (rewriteOf debug path host).get? "host" = some (.str host) := by
  cases debug <;> rfl

/-- The plugins show the host, and whether they are those of production. -/
theorem plugins_of_sortKeys
    (h : (plugins debug path host).sortKeys = (plugins debug' path' host').sortKeys) :
    debug = debug' ∧ host = host' := by
  constructor
  · have hprometheus := get?_of_sortKeys nodup_keys_plugins nodup_keys_plugins h "prometheus"
    cases debug <;> cases debug' <;> first | rfl | cases hprometheus
  · have hrewrite := member_of_sortKeys h nodup_keys_plugins nodup_keys_plugins get?_rewrite
      get?_rewrite
    have hhost := member_of_sortKeys hrewrite nodup_keys_rewrite nodup_keys_rewrite get?_host
      get?_host
    simpa using hhost

theorem nodup_keys_payload : (payload debug routeId path host port).keys.Nodup :=
  (by decide : ["uris", "name", "priority", "plugins", "upstream"].Nodup)

theorem payload_of_sortKeys (h : (payload debug routeId path host port).sortKeys =
    (payload debug' routeId' path' host' port').sortKeys) :
    payload debug routeId path host port = payload debug' routeId' path' host' port' := by
  have member : ∀ {k : String} {x y : Json},
      (payload debug routeId path host port).get? k = some x →
      (payload debug' routeId' path' host' port').get? k = some y → x.sortKeys = y.sortKeys :=
    fun hx hy => member_of_sortKeys h nodup_keys_payload nodup_keys_payload hx hy
  have huris := member (k := "uris") rfl rfl
  have hname := member (k := "name") rfl rfl
  have hplugins := member (k := "plugins") rfl rfl
  have hupstream := member (k := "upstream") rfl rfl
  have hnodup : ["type", "pass_host", "nodes"].Nodup := by decide
  have hnodes := member_of_sortKeys hupstream hnodup hnodup (k := "nodes") rfl rfl
  rw [Json.sortKeys_arr, Json.sortKeys_arr] at huris
  obtain ⟨rfl, rfl⟩ := plugins_of_sortKeys hplugins
  have hpath : path = path' := by
    simp only [List.map_cons, Json.sortKeys_str, Json.arr.injEq, List.cons.injEq,
      Json.str.injEq] at huris
    exact huris.1
  have hid : routeId = routeId' := by simpa using hname
  subst hpath hid
  rw [payload, payload, key_of_sortKeys hnodes]

end Payload

/-! ### Plans that were built -/

/-- The identifier needs no percent escapes, and the body is that of a route. -/
def Built : Plan → Prop
  | .skipped routeId => ∀ c ∈ routeId.toList, segmentChar c = true
  | .route routeId body => (∀ c ∈ routeId.toList, segmentChar c = true) ∧
    ∃ debug path host port, body = payload debug routeId path host port

theorem segmentChar_of_slug {slug : String} (h : Fields.isSlug slug = true) :
    ∀ c ∈ (routeIdForModule slug).toList, segmentChar c = true := by
  have hslug : ∀ c ∈ slug.toList, segmentChar c = true := by
    intro c hc
    simp only [Fields.isSlug, Bool.and_eq_true, List.all_eq_true] at h
    have hchar := h.2 c hc
    simp only [Bool.or_eq_true] at hchar
    rcases hchar with (hchar | hchar) | hchar <;> simp [segmentChar, hchar]
  unfold routeIdForModule
  split
  · exact hslug
  · rw [String.toList_append, List.forall_mem_append]
    exact ⟨List.all_eq_true.1 (by decide), hslug⟩

theorem built_of_build {modules : List Module} {slug : String} {plan : Plan}
    (h : buildRoutePlan py service modules slug = .ok plan) : Built plan := by
  obtain ⟨moduleSlug, hslug, h⟩ := bind_eq_ok.1 h
  obtain ⟨_, hensure, hslug⟩ := bind_eq_ok.1 hslug
  cases hslug
  have hchars := segmentChar_of_slug (ensure_eq_ok.1 hensure)
  obtain ⟨_, -, h⟩ := bind_eq_ok.1 h
  obtain ⟨found, -, h⟩ := bind_eq_ok.1 h
  cases found with
  | none =>
    cases h
    exact hchars
  | some found =>
    obtain ⟨path, -, h⟩ := bind_eq_ok.1 h
    obtain ⟨_, -, h⟩ := bind_eq_ok.1 h
    obtain ⟨⟨host, port⟩, -, h⟩ := bind_eq_ok.1 h
    cases h
    exact ⟨hchars, _, _, _, _, rfl⟩

theorem quote_of_segmentChar {s : String} (h : ∀ c ∈ s.toList, segmentChar c = true) :
    Urls.quote Urls.unreserved s = s := by
  refine Urls.quote_of_safe fun c hc => ⟨toNat_lt_of_segmentChar (.inl (h c hc)), ?_⟩
  have hsegment := h c hc
  simp only [segmentChar, Bool.or_eq_true, beq_iff_eq] at hsegment
  simp only [Urls.unreserved, Bool.or_eq_true]
  rcases hsegment with (((halpha | rfl) | rfl) | rfl) | rfl
  · exact .inl halpha
  all_goals exact .inr (by decide)

theorem readable_plugins {debug : Bool} {path host : String} (r : Json.FloatReader) :
    Json.readable r (plugins debug path host) = true := by
  have hheaders : Json.readable r (headerPolicy host) = true := by
    unfold headerPolicy
    simp only
    split <;> simp [Json.readable, Json.readableMembers, Json.readableItems]
  cases debug <;>
    simp [plugins, Json.readable, Json.readableMembers, Json.readableItems, hheaders]

theorem readable_canonicalPlan {plan : Plan} (h : Built plan) (r : Json.FloatReader) :
    Json.readable r plan.canonicalPlan = true := by
  cases plan with
  | skipped routeId => simp [Plan.canonicalPlan, Json.readable, Json.readableMembers]
  | route routeId body =>
    obtain ⟨-, debug, path, host, port, rfl⟩ := h
    have hbody : Json.readable r (payload debug routeId path host port) = true := by
      have hone : (Nat.toDigits 10 (1 : ℤ).natAbs).length ≤ 4300 := by decide
      have hundred : (Nat.toDigits 10 (100 : ℤ).natAbs).length ≤ 4300 := by decide
      simp only [payload, Json.readable, Json.readableMembers, Json.readableItems,
        readable_plugins, hone, hundred, decide_true, Bool.and_true, Bool.and_self,
        List.map_cons, List.map_nil]
      simp
    simp [Plan.canonicalPlan, Json.readable, Json.readableMembers, hbody]

theorem nodup_keys_canonicalPlan (plan : Plan) : plan.canonicalPlan.keys.Nodup := by
  cases plan <;> exact (by decide : ["payload", "route_id", "skipped"].Nodup)

theorem get?_routeId (plan : Plan) :
    plan.canonicalPlan.get? "route_id" = some (.str plan.routeId) := by
  cases plan <;> rfl

/-- **Plans with one canonical form are equal.** -/
theorem eq_of_canonical {a b : Plan} (ha : Built a) (hb : Built b)
    (h : a.canonicalPlan.canonical = b.canonicalPlan.canonical) : a = b := by
  have hsorted := Json.sortKeys_of_canonical (readable_canonicalPlan ha ⟨some, by simp⟩)
    (readable_canonicalPlan hb _) h
  have hnodupA := nodup_keys_canonicalPlan a
  have hnodupB := nodup_keys_canonicalPlan b
  have hid : a.routeId = b.routeId := by
    simpa using member_of_sortKeys hsorted hnodupA hnodupB (get?_routeId a) (get?_routeId b)
  cases a with
  | skipped routeId =>
    cases b with
    | skipped routeId' => exact congrArg _ hid
    | route routeId' body' =>
      have hskipped := member_of_sortKeys hsorted hnodupA hnodupB (k := "skipped") rfl rfl
      simp [Json.sortKeys] at hskipped
  | route routeId body =>
    cases b with
    | skipped routeId' =>
      have hskipped := member_of_sortKeys hsorted hnodupA hnodupB (k := "skipped") rfl rfl
      simp [Json.sortKeys] at hskipped
    | route routeId' body' =>
      obtain ⟨-, debug, path, host, port, rfl⟩ := ha
      obtain ⟨-, debug', path', host', port', rfl⟩ := hb
      have hbody := payload_of_sortKeys
        (member_of_sortKeys hsorted hnodupA hnodupB (k := "payload") rfl rfl)
      rw [hbody, show routeId = routeId' from hid]

/-! ### Entity tags -/

theorem toList_etag (plan : Plan) : plan.etag.toList = '"' ::
    ("sha256-".toList ++ (Sha256.hexdigest plan.canonicalPlan.canonical).toList ++ ['"']) := by
  simp [Plan.etag]

theorem strip_etag (plan : Plan) : strip plan.etag = plan.etag := by
  have hquote : isSpace '"' = false := by decide
  have hlist : (strip plan.etag).toList = plan.etag.toList := by
    simp [strip, toList_etag, hquote]
  exact String.toList_inj.1 hlist

theorem digest_of_etag {a b : Plan} (h : a.etag = b.etag) :
    Sha256.hexdigest a.canonicalPlan.canonical = Sha256.hexdigest b.canonicalPlan.canonical := by
  have hlist := congrArg String.toList h
  rw [toList_etag, toList_etag] at hlist
  simp only [List.cons.injEq, List.append_assoc, List.append_right_inj, List.append_left_inj,
    true_and] at hlist
  exact String.toList_inj.1 hlist

theorem strongRouteEtag_etag (plan : Plan) : strongRouteEtag plan.etag = true := by
  have hhex := Sha256.isHexDigest_hexdigest plan.canonicalPlan.canonical
  simp only [isHexDigest, Bool.and_eq_true, beq_iff_eq] at hhex
  obtain ⟨hlength, hall⟩ := hhex
  have hlast : plan.etag.toList.getLast? = some '"' := by
    rw [toList_etag, ← List.cons_append, List.getLast?_concat]
  rw [strongRouteEtag, hlast]
  simp [toList_etag, hlength, hall, List.take_append]

theorem validatedRoutePreviewEtag_etag (plan : Plan) :
    validatedRoutePreviewEtag (some plan.etag) = .ok plan.etag := by
  simp only [validatedRoutePreviewEtag, strip_etag, strongRouteEtag_etag, ensure_true, ok_bind]
  rfl

/-! ### Sessions -/

/-- A conditional publication: the header, the effective plan and how the call ended. -/
structure Attempt where
  ifMatch : Option String
  plan : Except Raised Plan
  outcome : Outcome

/-- The catalogue, with the results of the dry runs and the conditional publications so far. -/
structure Session where
  modules : List Module
  previews : List Result
  attempts : List Attempt

/-- What happens in a session. `answer` is the answer of the administration interface. -/
inductive Action where
  | edit (modules : List Module)
  | preview (slug : String)
  | publish (slug : String) (ifMatch : Option String) (answer : Except Raised Json)

/-- `publish_route(slug, dry_run=True)`. -/
def dryRun (py : Python) (service : Service) (modules : List Module) (slug : String) : Outcome :=
  publishRoute py service (fun _ => .error .transport) modules slug true none false

/-- `publish_route(slug, expected_etag=ifMatch, require_preview=True)`. -/
def attempt (py : Python) (service : Service) (modules : List Module) (slug : String)
    (ifMatch : Option String) (answer : Except Raised Json) : Attempt where
  ifMatch := ifMatch
  plan := buildRoutePlan py service modules slug
  outcome := publishRoute py service (fun _ => answer) modules slug false ifMatch true

def Session.step (py : Python) (service : Service) (s : Session) : Action → Option Session
  | .edit modules => some { s with modules := modules }
  | .preview slug =>
    some { s with previews :=
      s.previews ++ (dryRun py service s.modules slug).result.toOption.toList }
  | .publish slug ifMatch answer =>
    some { s with attempts := s.attempts ++ [attempt py service s.modules slug ifMatch answer] }

/-- A session without calls. -/
def Session.start (modules : List Module) : Session := ⟨modules, [], []⟩

/-- The plans that the calls have built. -/
def Session.plans (s : Session) : List Plan :=
  s.previews.map Result.plan ++ s.attempts.filterMap fun a => a.plan.toOption

/-- A dry run returns a built plan with its tag, and sends nothing. -/
theorem dryRun_eq_ok {modules : List Module} {slug : String} {result : Result}
    (h : (dryRun py service modules slug).result = .ok result) :
    Built result.plan ∧ result.etag = result.plan.etag := by
  unfold dryRun publishRoute at h
  simp only [Bool.not_true, Bool.and_false, Bool.false_eq_true, if_false] at h
  split at h
  · cases h
  · rename_i plan hplan
    cases h
    exact ⟨built_of_build hplan, rfl⟩

/-- What a conditional publication has checked: without an error the tag of the effective plan is
the precondition, and what is sent is that plan. -/
structure Attempt.Sound (service : Service) (a : Attempt) : Prop where
  built : ∀ plan, a.plan = .ok plan → Built plan
  sent : ∀ put, a.outcome.sent = some put → ∃ etag routeId body, a.ifMatch = some etag ∧
    a.plan = .ok (.route routeId body) ∧ strip etag = (Plan.route routeId body).etag ∧
    put = service.put routeId body
  ended : (a.outcome.sent = none ∧ ∃ e, a.outcome.result = .error e) ∨
    ∃ etag plan, a.ifMatch = some etag ∧ a.plan = .ok plan ∧ strip etag = plan.etag

theorem validatedRoutePreviewEtag_eq_ok {value : Option String} {etag : String}
    (h : validatedRoutePreviewEtag value = .ok etag) : ∃ v, value = some v ∧ strip v = etag := by
  cases value with
  | none => cases h
  | some v =>
    obtain ⟨_, -, h⟩ := bind_eq_ok.1 h
    obtain ⟨_, -, h⟩ := bind_eq_ok.1 h
    cases h
    exact ⟨v, rfl, rfl⟩

theorem publishPlan_of_ne {send : Put → Except Raised Json} {dryRun : Bool} {etag : String}
    {plan : Plan} (h : etag ≠ plan.etag) : publishPlan service send dryRun (some etag) plan =
      ⟨none, .error (.refused .staleRoutePreview
        "The effective APISIX route no longer matches the preview")⟩ := by
  unfold publishPlan
  rw [if_pos]
  simpa using h

/-- The end of a conditional publication, by what its two parts returned. -/
theorem attempt_cases (modules : List Module) (slug : String) (ifMatch : Option String)
    (answer : Except Raised Json) :
    (∃ e, (attempt py service modules slug ifMatch answer).outcome = ⟨none, .error e⟩) ∨
    ∃ etag plan, ifMatch = some etag ∧ buildRoutePlan py service modules slug = .ok plan ∧
      strip etag = plan.etag ∧ (attempt py service modules slug ifMatch answer).outcome =
        publishPlan service (fun _ => answer) false (some (strip etag)) plan := by
  simp only [attempt, publishRoute, Bool.not_false, Bool.and_self, if_true]
  cases hetag : validatedRoutePreviewEtag ifMatch with
  | error e => exact .inl ⟨e, rfl⟩
  | ok etag =>
    obtain ⟨v, hv, rfl⟩ := validatedRoutePreviewEtag_eq_ok hetag
    cases hplan : buildRoutePlan py service modules slug with
    | error e => exact .inl ⟨e, rfl⟩
    | ok plan =>
      by_cases heq : strip v = plan.etag
      · exact .inr ⟨v, plan, hv, rfl, heq, rfl⟩
      · exact .inl ⟨_, publishPlan_of_ne heq⟩

/-- **Every conditional publication is sound**, whatever the catalogue is. -/
theorem attempt_sound (modules : List Module) (slug : String) (ifMatch : Option String)
    (answer : Except Raised Json) :
    (attempt py service modules slug ifMatch answer).Sound service := by
  have hbuilt : ∀ plan, (attempt py service modules slug ifMatch answer).plan = .ok plan →
      Built plan := fun _ hplan => built_of_build hplan
  rcases attempt_cases modules slug ifMatch answer with
    ⟨e, houtcome⟩ | ⟨etag, plan, hmatch, hplan, hetag, houtcome⟩
  · refine ⟨hbuilt, fun put hput => ?_, .inl ?_⟩
    · rw [houtcome] at hput
      cases hput
    · rw [houtcome]
      exact ⟨rfl, e, rfl⟩
  · refine ⟨hbuilt, fun put hput => ?_, .inr ⟨etag, plan, hmatch, hplan, hetag⟩⟩
    rw [houtcome, hetag] at hput
    unfold publishPlan at hput
    simp only [Option.any_some, bne_self_eq_false, Bool.false_eq_true, if_false] at hput
    cases plan with
    | skipped routeId => cases hput
    | route routeId body =>
      cases hput
      exact ⟨etag, routeId, body, hmatch, hplan, hetag, rfl⟩

/-- A publication with the tag of the effective plan sends that plan. -/
theorem sent_of_etag {modules : List Module} {slug routeId : String} {body : Json}
    {answer : Except Raised Json}
    (h : buildRoutePlan py service modules slug = .ok (.route routeId body)) :
    (attempt py service modules slug (some (Plan.route routeId body).etag) answer).outcome.sent =
      some (service.put routeId body) := by
  simp [attempt, publishRoute, validatedRoutePreviewEtag_etag, h, publishPlan, Functor.map,
    Except.map]

/-- What holds of the log of a session. -/
structure Session.Logged (service : Service) (s : Session) : Prop where
  previews : ∀ result ∈ s.previews, Built result.plan ∧ result.etag = result.plan.etag
  attempts : ∀ a ∈ s.attempts, a.Sound service

theorem Session.Logged.step {s s' : Session} {action : Action} (hs : s.Logged service)
    (h : s.step py service action = some s') : s'.Logged service := by
  cases action with
  | edit modules =>
    cases h
    exact ⟨hs.previews, hs.attempts⟩
  | preview slug =>
    cases h
    refine ⟨?_, hs.attempts⟩
    rw [List.forall_mem_append]
    refine ⟨hs.previews, fun result hresult => ?_⟩
    rw [Option.mem_toList] at hresult
    exact dryRun_eq_ok (toOption_eq_some.1 hresult)
  | publish slug ifMatch answer =>
    cases h
    refine ⟨hs.previews, ?_⟩
    rw [List.forall_mem_append]
    exact ⟨hs.attempts, List.forall_mem_singleton.2 (attempt_sound _ _ _ _)⟩

theorem logged_of_reach {modules : List Module} {s : Session}
    (run : Reach (Session.step py service) Free (Session.start modules) s) : s.Logged service :=
  run.invariant (Session.Logged service) ⟨nofun, nofun⟩ fun _ hs _ h => hs.step h

/-- SHA-256 has no collision among the canonical forms of the plans. -/
def CollisionFree (plans : List Plan) : Prop :=
  ∀ p ∈ plans, ∀ q ∈ plans, Sha256.hexdigest p.canonicalPlan.canonical =
    Sha256.hexdigest q.canonicalPlan.canonical → p.canonicalPlan.canonical =
      q.canonicalPlan.canonical

/-- **What was previewed is what is published.** In every session, a conditional publication with
the tag of a dry run sends the route of that dry run, and one whose effective plan differs raises
before it sends anything. -/
theorem published_is_previewed {modules : List Module} {s : Session}
    (run : Reach (Session.step py service) Free (Session.start modules) s)
    (hfree : CollisionFree s.plans) :
    ∀ a ∈ s.attempts, ∀ preview ∈ s.previews, a.ifMatch = some preview.etag →
      (∀ put, a.outcome.sent = some put → ∃ routeId body, preview.plan = .route routeId body ∧
        put.url = service.adminUrl ++ "/apisix/admin/routes/" ++ routeId ∧ put.body = body) ∧
      (a.plan ≠ .ok preview.plan →
        a.outcome.sent = none ∧ ∃ e, a.outcome.result = .error e) := by
  intro a ha preview hpreview hmatch
  have hlogged := logged_of_reach run
  obtain ⟨hbuilt, hetag⟩ := hlogged.previews preview hpreview
  have hsound := hlogged.attempts a ha
  -- the tag determines the plan
  have hsame : ∀ etag plan, a.ifMatch = some etag → a.plan = .ok plan → strip etag = plan.etag →
      plan = preview.plan := by
    intro etag plan hifMatch hplan hstrip
    cases hifMatch.symm.trans hmatch
    rw [hetag, strip_etag] at hstrip
    refine eq_of_canonical (hsound.built plan hplan) hbuilt
      (hfree _ ?_ _ ?_ (digest_of_etag hstrip.symm))
    · refine List.mem_append_right _ (List.mem_filterMap.2 ⟨a, ha, ?_⟩)
      rw [hplan]
      rfl
    · exact List.mem_append_left _ (List.mem_map_of_mem hpreview)
  constructor
  · intro put hput
    obtain ⟨etag, routeId, body, hifMatch, hplan, hstrip, rfl⟩ := hsound.sent put hput
    have hplanEq := hsame etag _ hifMatch hplan hstrip
    refine ⟨routeId, body, hplanEq.symm, ?_, rfl⟩
    rw [Service.put, quote_of_segmentChar (hsound.built _ hplan).1]
  · intro hne
    rcases hsound.ended with hended | ⟨etag, plan, hifMatch, hplan, hstrip⟩
    · exact hended
    · rw [hplan, hsame etag plan hifMatch hplan hstrip] at hne
      exact absurd rfl hne

/-! ### A session -/

/-- A preview of a module and its publication, in an unchanged catalogue. -/
theorem published_is_previewed_sample :
    ∃ s : Session, (∃ a ∈ s.attempts, ∃ preview ∈ s.previews, a.ifMatch = some preview.etag ∧
        a.outcome.sent.isSome = true) ∧
      ∀ a ∈ s.attempts, ∀ preview ∈ s.previews, a.ifMatch = some preview.etag →
        (∀ put, a.outcome.sent = some put → ∃ routeId body, preview.plan = .route routeId body ∧
          put.url = "http://apisix:9180" ++ "/apisix/admin/routes/" ++ routeId ∧
          put.body = body) ∧
        (a.plan ≠ .ok preview.plan →
          a.outcome.sent = none ∧ ∃ e, a.outcome.result = .error e) := by
  have hplan : buildRoutePlan samplePython (sampleService []) [sampleModule "portal" "/portal"]
      "portal" = .ok (samplePlan "portal" "/portal") := by decide +kernel
  let s : Session := ⟨[sampleModule "portal" "/portal"],
    [⟨samplePlan "portal" "/portal", true, (samplePlan "portal" "/portal").etag, .null⟩],
    [attempt samplePython (sampleService []) [sampleModule "portal" "/portal"] "portal"
      (some (samplePlan "portal" "/portal").etag) (.ok .null)]⟩
  have run : Reach (Session.step samplePython (sampleService [])) Free
      (Session.start [sampleModule "portal" "/portal"]) s := by
    refine (Reach.refl.tail (l := .preview "portal") trivial rfl).tail
      (l := .publish "portal" (some (samplePlan "portal" "/portal").etag) (.ok .null)) trivial ?_
    simp only [Session.step, Session.start, dryRun, publishRoute, hplan]
    rfl
  refine ⟨s, ⟨_, List.mem_singleton_self _, _, List.mem_singleton_self _, rfl, ?_⟩,
    published_is_previewed run ?_⟩
  · exact Option.isSome_iff_exists.2 ⟨_, sent_of_etag hplan⟩
  · have hplans : s.plans = [samplePlan "portal" "/portal", samplePlan "portal" "/portal"] := by
      simp [s, Session.plans, attempt, hplan]
    intro p hp q hq _
    rw [hplans] at hp hq
    simp only [List.mem_cons, List.not_mem_nil, or_false, or_self] at hp hq
    rw [hp, hq]

end ArchiDeal.Gateway
