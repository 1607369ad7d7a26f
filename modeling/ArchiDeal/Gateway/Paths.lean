import ArchiDeal.Gateway.Routes

/-!
# The paths of published routes

A route matches its path and everything below it. Two folded paths are compared with a slash at the
end, so that "equal or below" is the prefix order (`foldedWithin_iff`); of two paths above one
request path one is therefore above the other. The route check compares a path with the paths of
other modules in both directions and with the reserved prefixes in one direction only.
-/

namespace ArchiDeal.Gateway

open Text
open Catalogue (Module)

variable {py : Python} {service : Service} {modules : List Module} {slug : String}

/-! ### Matching -/

/-- APISIX: a final `*` matches every rest. -/
def uriMatches (uri request : String) : Bool :=
  if uri.toList.getLast? = some '*' then uri.toList.dropLast.isPrefixOf request.toList
  else uri == request

/-- The text of a JSON string. -/
def text? : Json → Option String
  | .str s => some s
  | _ => none

def Plan.uris : Plan → List String
  | skipped _ => []
  | route _ body =>
    match body.get? "uris" with
    | some (.arr xs) => xs.filterMap text?
    | _ => []

/-- The route of the plan matches the request path. -/
def Plan.matches (plan : Plan) (request : String) : Bool :=
  plan.uris.any fun uri => uriMatches uri request

/-- The path without slashes at its end. -/
def normal (path : String) : String := String.ofList (rstripSlash path.toList)

/-! ### Folded paths -/

theorem foldedWithin_iff {path root : List Char} :
    foldedWithin path root = true ↔ root ++ ['/'] <+: path ++ ['/'] := by
  rw [foldedWithin, Bool.or_eq_true, beq_iff_eq, List.isPrefixOf_iff_prefix,
    List.prefix_concat_iff, List.append_left_inj, eq_comm]

theorem foldedWithin_or {path a b : List Char} (ha : foldedWithin path a = true)
    (hb : foldedWithin path b = true) : foldedWithin a b = true ∨ foldedWithin b a = true := by
  rw [foldedWithin_iff] at ha hb ⊢
  rw [foldedWithin_iff]
  exact List.prefix_or_prefix_of_prefix hb ha

theorem foldedWithin_refl (path : List Char) : foldedWithin path path = true :=
  foldedWithin_iff.2 (List.prefix_refl _)

theorem fold_slash (py : Python) : py.fold '/' = ['/'] := py.fold_ascii '/' (by decide)

theorem foldedWithin_casefold {path root : String}
    (h : foldedWithin path.toList root.toList = true) : pathIsWithin py path root = true := by
  rw [foldedWithin_iff] at h
  rw [pathIsWithin, foldedWithin_iff]
  obtain ⟨t, ht⟩ := h
  refine ⟨t.flatMap py.fold, ?_⟩
  have hfold := congrArg (List.flatMap py.fold) ht
  simpa [Python.casefold, fold_slash] using hfold

theorem toLower_toLower {c : Char} (hc : c.toNat < 128) : c.toLower.toLower = c.toLower := by
  have hall : ∀ n : Fin 128, (Char.ofNat n).toLower.toLower = (Char.ofNat n).toLower := by decide
  have h := hall ⟨c.toNat, hc⟩
  rwa [Char.ofNat_toNat] at h

theorem toNat_toLower_lt {c : Char} (hc : c.toNat < 128) : c.toLower.toNat < 128 := by
  have hall : ∀ n : Fin 128, (Char.ofNat n).toLower.toNat < 128 := by decide
  have h := hall ⟨c.toNat, hc⟩
  rwa [Char.ofNat_toNat] at h

theorem fold_of_mem_casefold {s : String} (hs : ∀ c ∈ s.toList, c.toNat < 128) {c : Char}
    (hc : c ∈ py.casefold s) : py.fold c = [c] := by
  obtain ⟨d, hd, hcd⟩ := List.mem_flatMap.1 hc
  rw [py.fold_ascii d (hs d hd), List.mem_singleton] at hcd
  subst hcd
  rw [py.fold_ascii _ (toNat_toLower_lt (hs d hd)), toLower_toLower (hs d hd)]

theorem flatMap_fold_of_mem_casefold {s : String} (hs : ∀ c ∈ s.toList, c.toNat < 128)
    {t : List Char} (ht : ∀ c ∈ t, c ∈ py.casefold s) : t.flatMap py.fold = t := by
  induction t with
  | nil => rfl
  | cons c t ih =>
    rw [List.forall_mem_cons] at ht
    rw [List.flatMap_cons, fold_of_mem_casefold hs ht.1, ih ht.2]
    rfl

/-! ### Validated paths -/

theorem mem_of_mem_intercalate {sep : Char} {xss : List (List Char)} {c : Char}
    (h : c ∈ [sep].intercalate xss) : c = sep ∨ ∃ xs ∈ xss, c ∈ xs := by
  induction xss with
  | nil => simp at h
  | cons xs xss ih =>
    cases xss with
    | nil => exact .inr ⟨xs, by simp, by simpa using h⟩
    | cons ys xss =>
      rw [List.intercalate_cons_cons, List.mem_append, List.mem_append, List.mem_singleton] at h
      rcases h with (h | rfl) | h
      · exact .inr ⟨xs, List.mem_cons_self, h⟩
      · exact .inl rfl
      · rcases ih h with rfl | ⟨zs, hzs, hc⟩
        · exact .inl rfl
        · exact .inr ⟨zs, List.mem_cons_of_mem _ hzs, hc⟩

theorem segmentChar_of_pattern {cs : List Char} (h : segmentPattern cs = true) :
    ∀ c ∈ cs, segmentChar c = true := by
  cases cs with
  | nil => nofun
  | cons c cs =>
    rw [segmentPattern, Bool.and_eq_true, List.all_eq_true] at h
    rw [List.forall_mem_cons]
    exact ⟨by simp [segmentChar, h.1], h.2⟩

theorem rstripSlash_isPrefix (cs : List Char) : rstripSlash cs <+: cs := by
  have hsuffix : cs.reverse.dropWhile (· == '/') <:+ cs.reverse := List.dropWhile_suffix _
  rw [rstripSlash, ← List.reverse_suffix, List.reverse_reverse]
  exact hsuffix

theorem validatedPublicPath_eq_ok {value path : String} (h : validatedPublicPath value = .ok path) :
    path = normal value ∧ ∀ c ∈ path.toList, segmentChar c = true ∨ c = '/' := by
  obtain ⟨_, hhead, h⟩ := bind_eq_ok.1 h
  obtain ⟨_, hroot, h⟩ := bind_eq_ok.1 h
  obtain ⟨_, -, h⟩ := bind_eq_ok.1 h
  obtain ⟨_, hsegments, h⟩ := bind_eq_ok.1 h
  have hroot := ensure_eq_ok.1 hroot
  have hsegments := ensure_eq_ok.1 hsegments
  have hhead : value.toList.head? = some '/' := by
    simpa using ((Bool.and_eq_true _ _).mp (ensure_eq_ok.1 hhead)).2
  split at h
  · rename_i hvalue
    rw [if_pos hvalue, hvalue] at hroot
    cases hroot
  · rename_i hvalue
    rw [if_neg hvalue] at hsegments
    cases h
    refine ⟨rfl, fun c hc => ?_⟩
    rw [String.toList_ofList] at hc hsegments
    -- the path begins with the slash of the value, and the rest is made of segments
    cases hpath : rstripSlash value.toList with
    | nil =>
      rw [hpath] at hc
      cases hc
    | cons d rest =>
      obtain ⟨t, ht⟩ := rstripSlash_isPrefix value.toList
      rw [hpath] at ht hc hsegments
      rw [← ht] at hhead
      cases hhead
      rcases List.mem_cons.1 hc with rfl | hc
      · exact .inr rfl
      · rw [List.drop_succ_cons, List.drop_zero] at hsegments
        rw [show rest = ['/'].intercalate (rest.splitOn '/') from
          (List.intercalate_splitOn '/').symm] at hc
        rcases mem_of_mem_intercalate hc with rfl | ⟨cs, hcs, hc⟩
        · exact .inr rfl
        · exact .inl (segmentChar_of_pattern (List.all_eq_true.1 hsegments cs hcs) c hc)

theorem toNat_lt_of_segmentChar {c : Char} (h : segmentChar c = true ∨ c = '/') :
    c.toNat < 128 := by
  rcases h with h | rfl
  · simp only [segmentChar, alphaDigit, lowerDigit, upper, digit, Bool.or_eq_true,
      Bool.and_eq_true, decide_eq_true_eq, beq_iff_eq] at h
    rcases h with ((((((⟨-, h⟩ | ⟨-, h⟩) | ⟨-, h⟩) | rfl) | rfl) | rfl) | rfl)
    · exact lt_of_le_of_lt (show c.toNat ≤ 'z'.toNat from h) (by decide)
    · exact lt_of_le_of_lt (show c.toNat ≤ '9'.toNat from h) (by decide)
    · exact lt_of_le_of_lt (show c.toNat ≤ 'Z'.toNat from h) (by decide)
    all_goals decide
  · decide

theorem ascii_of_validated {value path : String} (h : validatedPublicPath value = .ok path) :
    ∀ c ∈ path.toList, c.toNat < 128 := fun c hc =>
  toNat_lt_of_segmentChar ((validatedPublicPath_eq_ok h).2 c hc)

theorem matches_iff {debug : Bool} {routeId path host value request : String} {port : ℤ}
    (hpath : validatedPublicPath value = .ok path) :
    (Plan.route routeId (payload debug routeId path host port)).matches request = true ↔
      foldedWithin request.toList path.toList = true := by
  have hstar : path.toList.getLast? ≠ some '*' := by
    intro hlast
    rcases (validatedPublicPath_eq_ok hpath).2 '*' (List.mem_of_getLast? hlast) with h | h
    · exact absurd h (by decide)
    · exact absurd h (by decide)
  have huris : (Plan.route routeId (payload debug routeId path host port)).uris =
      [path, path ++ "/*"] := rfl
  have hwild : (path ++ "/*").toList = path.toList ++ ['/'] ++ ['*'] := by simp
  rw [Plan.matches, huris, List.any_cons, List.any_cons, List.any_nil, Bool.or_false,
    Bool.or_eq_true, uriMatches, if_neg hstar, uriMatches, hwild, List.getLast?_concat,
    if_pos rfl, List.dropLast_concat, beq_iff_eq, foldedWithin, Bool.or_eq_true, beq_iff_eq,
    eq_comm, String.toList_inj]

/-! ### Accepted routes -/

theorem pathsOverlap_self (path : String) : pathsOverlap py path path = true := by
  simp [pathsOverlap, pathIsWithin, foldedWithin_refl]

theorem pathsOverlap_congr {path a b : String} (h : py.casefold a = py.casefold b) :
    pathsOverlap py path a = pathsOverlap py path b := by
  simp only [pathsOverlap, pathIsWithin, h]

/-- No protected path overlaps: one that was skipped folds to one that was compared. -/
theorem checkProtected_eq_ok {path : String} {paths : List (String × String)}
    {seen : List (List Char)}
    (hseen : ∀ p, py.casefold p ∈ seen → pathsOverlap py path p = false)
    (h : checkProtected py path paths seen = .ok ()) :
    ∀ entry ∈ paths, pathsOverlap py path entry.1 = false := by
  induction paths generalizing seen with
  | nil => nofun
  | cons entry paths ih =>
    obtain ⟨p, source⟩ := entry
    rw [List.forall_mem_cons]
    unfold checkProtected at h
    simp only at h
    split at h
    · rename_i hin
      rw [List.contains_iff_mem] at hin
      exact ⟨hseen p hin, ih hseen h⟩
    · obtain ⟨_, hensure, h⟩ := bind_eq_ok.1 h
      have hp : pathsOverlap py path p = false := by simpa using ensure_eq_ok.1 hensure
      refine ⟨hp, ih (fun q hq => ?_) h⟩
      rcases List.mem_cons.1 hq with hq | hq
      · rw [pathsOverlap_congr hq]
        exact hp
      · exact hseen q hq

/-- What a route plan was made from: the row of the module, and a path that passed the checks. -/
structure Routed (py : Python) (service : Service) (modules : List Module) (slug : String)
    (plan : Plan) (m : Module) (path : String) : Prop where
  found : modules.find? (fun candidate => candidate.slug == strip slug) = some m
  enabled : m.enabled = true
  hasPath : m.publicPath ≠ ""
  validated : validatedPublicPath m.publicPath = .ok path
  others : ∀ other ∈ modules, other.enabled = true → other.slug ≠ strip slug →
    other.publicPath ≠ "" → ∃ p, validatedPublicPath other.publicPath = .ok p ∧
      pathsOverlap py path p = false
  reserved : ∀ root ∈ reservedPrefixes service, ∃ q, validatedPublicPath root = .ok q ∧
    pathIsWithin py path q = false
  plan_eq : ∃ host port, plan = .route (routeIdForModule (strip slug))
    (payload service.debug (routeIdForModule (strip slug)) path host port)

theorem item_eq_ok {route v : Json} {name : String} (h : item route name = .ok v) :
    route.get? name = some v := by
  unfold item at h
  split at h
  · cases h
    assumption
  · cases h

theorem mem_of_lookup {α : Type} {kvs : List (String × α)} {k : String} {a : α}
    (h : kvs.lookup k = some a) : (k, a) ∈ kvs := by
  induction kvs with
  | nil => cases h
  | cons kv kvs ih =>
    obtain ⟨l, b⟩ := kv
    rw [List.lookup_cons] at h
    split at h
    · rename_i heq
      cases h
      rw [beq_iff_eq] at heq
      exact heq ▸ List.mem_cons_self
    · exact List.mem_cons_of_mem _ (ih h)

theorem validateRoutePath_eq_ok {value path : String}
    (h : validateRoutePath py service slug value modules = .ok path) :
    validatedPublicPath value = .ok path ∧
    (∀ entry ∈ service.routeDefaults, ∃ v p, entry.2.get? "public_path" = some v ∧
      validatedPublicPath (py.str v) = .ok p ∧ pathsOverlap py path p = false) ∧
    (∀ other ∈ otherModules slug modules, ∃ p, validatedPublicPath other.publicPath = .ok p ∧
      pathsOverlap py path p = false) ∧
    ∀ root ∈ reservedPrefixes service, ∃ q, validatedPublicPath root = .ok q ∧
      pathIsWithin py path q = false := by
  obtain ⟨path', hpath, h⟩ := bind_eq_ok.1 h
  obtain ⟨defaults, hdefaults, h⟩ := bind_eq_ok.1 h
  obtain ⟨others, hothers, h⟩ := bind_eq_ok.1 h
  obtain ⟨_, hprotected, h⟩ := bind_eq_ok.1 h
  obtain ⟨prefixes, hprefixes, h⟩ := bind_eq_ok.1 h
  obtain ⟨_, hreserved, h⟩ := bind_eq_ok.1 h
  cases h
  have hfree := checkProtected_eq_ok (by simp) hprotected
  rw [List.forall_mem_append] at hfree
  refine ⟨hpath, fun entry hentry => ?_, fun other hother => ?_, fun root hroot => ?_⟩
  · obtain ⟨entry', hmem, hread⟩ := exists_mem_of_mapM hdefaults hentry
    obtain ⟨v, hv, hread⟩ := bind_eq_ok.1 hread
    obtain ⟨p, hp, hread⟩ := bind_eq_ok.1 hread
    cases hread
    exact ⟨v, p, item_eq_ok hv, hp, hfree.1 (p, _) hmem⟩
  · obtain ⟨entry', hmem, hread⟩ := exists_mem_of_mapM hothers hother
    obtain ⟨p, hp, hread⟩ := bind_eq_ok.1 hread
    cases hread
    exact ⟨p, hp, hfree.2 (p, _) hmem⟩
  · obtain ⟨raw, hraw, hprefixes⟩ := bind_eq_ok.1 hprefixes
    cases hprefixes
    obtain ⟨q, hmem, hq⟩ := exists_mem_of_mapM hraw hroot
    have hcheck := forM_eq_ok.1 hreserved q (List.mem_eraseDups.2 hmem)
    rw [checkReserved, ensure_eq_ok, Bool.not_eq_true'] at hcheck
    exact ⟨q, hq, hcheck⟩

/-- A module without a row has no route: its default route protects its own path. -/
theorem not_default {default : String × String × ℤ} {route : Json} {path : String}
    (hroute : service.routeDefaults.lookup slug = some route)
    (hdefault : defaultTarget py service slug = .ok default)
    (h : validateRoutePath py service slug default.1 modules = .ok path) : False := by
  obtain ⟨hpath, hdefaults, -, -⟩ := validateRoutePath_eq_ok h
  obtain ⟨v, p, hv, hp, hfree⟩ := hdefaults (slug, route) (mem_of_lookup hroute)
  unfold defaultTarget at hdefault
  rw [hroute] at hdefault
  simp only at hdefault
  split at hdefault
  · obtain ⟨v', hv', hdefault⟩ := bind_eq_ok.1 hdefault
    obtain ⟨_, -, hdefault⟩ := bind_eq_ok.1 hdefault
    obtain ⟨_, -, hdefault⟩ := bind_eq_ok.1 hdefault
    cases hv.symm.trans (item_eq_ok hv')
    have hfirst : default.1 = py.str v := by
      split at hdefault
      · cases hdefault
        rfl
      · cases hdefault
    rw [hfirst, hp] at hpath
    cases hpath
    rw [pathsOverlap_self] at hfree
    cases hfree
  · -- a route that is an empty mapping has no path
    rename_i hempty
    rcases route with _ | _ | _ | _ | _ | _ | _ | ⟨kv, kvs⟩ <;> first | cases hv | skip
    exact hempty rfl

/-- **Where a route comes from.** -/
theorem routed_of_build {plan : Plan} {routeId : String} {body : Json}
    (h : buildRoutePlan py service modules slug = .ok plan) (hplan : plan = .route routeId body) :
    ∃ m path, Routed py service modules slug plan m path := by
  obtain ⟨moduleSlug, hslug, h⟩ := bind_eq_ok.1 h
  obtain ⟨_, -, hslug⟩ := bind_eq_ok.1 hslug
  cases hslug
  obtain ⟨default, hdefault, h⟩ := bind_eq_ok.1 h
  obtain ⟨found, htarget, h⟩ := bind_eq_ok.1 h
  cases found with
  | none =>
    cases h
    cases hplan
  | some found =>
    obtain ⟨publicPath, host, port⟩ := found
    obtain ⟨path, hpath, h⟩ := bind_eq_ok.1 h
    obtain ⟨_, -, h⟩ := bind_eq_ok.1 h
    obtain ⟨⟨host', port'⟩, -, h⟩ := bind_eq_ok.1 h
    cases h
    unfold target at htarget
    -- a module of its own, or else the default route, whose path is reserved
    split at htarget
    · rename_i m hm
      split at htarget
      · rename_i henabled
        split at htarget
        · split at htarget
          · cases htarget
          · rename_i hset
            cases htarget
            rw [not_or] at hset
            obtain ⟨hvalid, -, hothers, hreserved⟩ := validateRoutePath_eq_ok hpath
            refine ⟨m, path, hm, henabled, hset.1, hvalid, fun other hother hon hne hp => ?_,
              hreserved, host', port', rfl⟩
            exact hothers other (List.mem_filter.2 ⟨hother, by simp [hon, hne, hp]⟩)
        · cases htarget
      · cases htarget
    · split at htarget
      · rename_i hsome
        obtain ⟨route, hroute⟩ := Option.isSome_iff_exists.1 hsome
        cases htarget
        exact (not_default hroute hdefault hpath).elim
      · split at htarget <;> cases htarget

/-! ### Samples -/

/-- Python, on the texts of the samples, which have no floats and lists. -/
def samplePython : Python where
  floats := ⟨fun _ => "", fun _ => none⟩
  repr _ := ""
  fold c := [c.toLower]
  isIpAddress _ := false
  fold_ascii _ _ := rfl

/-- A development service that reserves the prefixes. -/
def sampleService (reserved : List String) : Service :=
  { adminUrl := "http://apisix:9180", adminKey := "key", upstreamHost := "portal",
    upstreamPort := 8080, debug := true, routeReservedPathPrefixes := reserved }

/-- An enabled module with a route. -/
def sampleModule (slug publicPath : String) : Module :=
  { name := slug, slug := slug, image := "portal", branch := "main", repositoryOwner := "",
    repositoryName := "", sourcePath := "", deploymentTarget := "compose",
    publicPath := publicPath, upstreamHost := "portal", upstreamPort := some 8080,
    healthcheckPath := "", contractTopics := .arr [], enabled := true, createdAt := 0 }

/-- The body of a sample module's route. -/
def sampleBody (slug publicPath : String) : Json :=
  payload true (routeIdForModule slug) publicPath "portal" 8080

def samplePlan (slug publicPath : String) : Plan :=
  .route (routeIdForModule slug) (sampleBody slug publicPath)

/-! ### Reserved prefixes -/

/-- What is strictly below the path of a route, whatever its case, is reached through the route. -/
theorem exists_request {path root : String} (hroot : ∀ c ∈ root.toList, c.toNat < 128)
    (h : pathIsWithin py root path = true) (hne : py.casefold root ≠ py.casefold path) :
    ∃ request, foldedWithin request.toList path.toList = true ∧
      py.casefold request = py.casefold root := by
  rw [pathIsWithin, foldedWithin, Bool.or_eq_true, beq_iff_eq, List.isPrefixOf_iff_prefix] at h
  obtain ⟨t, ht⟩ := h.resolve_left hne
  refine ⟨String.ofList (path.toList ++ '/' :: t), ?_, ?_⟩
  · rw [foldedWithin, String.toList_ofList, Bool.or_eq_true, List.isPrefixOf_iff_prefix]
    exact .inr ⟨t, by simp⟩
  · have hfold : t.flatMap py.fold = t := flatMap_fold_of_mem_casefold hroot fun c hc => by
      rw [← ht]
      exact List.mem_append_right _ hc
    rw [← ht, Python.casefold, String.toList_ofList, List.flatMap_append, List.flatMap_cons,
      fold_slash, hfold]
    simp [Python.casefold]

/-- **A route leaves the reserved prefixes alone exactly if none of them is below its path**: the
check refuses a path below a reserved prefix and not one above it. -/
theorem reserved_unmatched_iff {routeId : String} {body : Json}
    (h : buildRoutePlan py service modules slug = .ok (.route routeId body)) :
    (∀ root ∈ reservedPrefixes service, ∀ request,
      pathIsWithin py request (normal root) = true →
        (Plan.route routeId body).matches request = false) ↔
    ∀ m, modules.find? (fun candidate => candidate.slug == strip slug) = some m →
      ∀ root ∈ reservedPrefixes service,
        pathIsWithin py (normal root) (normal m.publicPath) = false := by
  obtain ⟨m, path, hrouted⟩ := routed_of_build h rfl
  obtain ⟨host, port, hplan⟩ := hrouted.plan_eq
  obtain ⟨hpath, -⟩ := validatedPublicPath_eq_ok hrouted.validated
  have hmatches : ∀ request, (Plan.route routeId body).matches request = true ↔
      foldedWithin request.toList path.toList = true := fun request => by
    rw [hplan]
    exact matches_iff hrouted.validated
  have hroots : ∀ root ∈ reservedPrefixes service,
      (∀ c ∈ (normal root).toList, c.toNat < 128) ∧
        pathIsWithin py path (normal root) = false := fun root hroot => by
    obtain ⟨q, hq, hfree⟩ := hrouted.reserved root hroot
    obtain ⟨rfl, -⟩ := validatedPublicPath_eq_ok hq
    exact ⟨ascii_of_validated hq, hfree⟩
  constructor
  · intro hunmatched m' hm' root hroot
    cases hrouted.found.symm.trans hm'
    rw [← hpath, ← Bool.not_eq_true]
    intro hbelow
    obtain ⟨hascii, hfree⟩ := hroots root hroot
    have hne : py.casefold (normal root) ≠ py.casefold path := fun hfold => by
      rw [pathIsWithin, hfold, foldedWithin_refl] at hfree
      cases hfree
    obtain ⟨request, hmatch, hfold⟩ := exists_request hascii hbelow hne
    have hrequest : pathIsWithin py request (normal root) = true := by
      rw [pathIsWithin, hfold]
      exact foldedWithin_refl _
    have hnot := hunmatched root hroot request hrequest
    rw [(hmatches request).2 hmatch] at hnot
    cases hnot
  · intro habove root hroot request hrequest
    rw [← Bool.not_eq_true, hmatches]
    intro hmatch
    -- the path and the prefix are both above the request path, so that one is above the other
    rcases foldedWithin_or (foldedWithin_casefold hmatch) hrequest with hwithin | hwithin
    · rw [show foldedWithin _ _ = pathIsWithin py path (normal root) from rfl,
        (hroots root hroot).2] at hwithin
      cases hwithin
    · have hfree := habove m hrouted.found root hroot
      rw [← hpath] at hfree
      rw [show foldedWithin _ _ = pathIsWithin py (normal root) path from rfl, hfree] at hwithin
      cases hwithin

/-- A module at `/portal` with `/platform` reserved. -/
theorem reserved_unmatched_iff_sample :
    buildRoutePlan samplePython (sampleService ["/platform"]) [sampleModule "portal" "/portal"]
      "portal" = .ok (samplePlan "portal" "/portal") ∧
    ((∀ root ∈ reservedPrefixes (sampleService ["/platform"]), ∀ request,
      pathIsWithin samplePython request (normal root) = true →
        (samplePlan "portal" "/portal").matches request = false) ↔
    ∀ m, [sampleModule "portal" "/portal"].find? (fun candidate =>
        candidate.slug == strip "portal") = some m →
      ∀ root ∈ reservedPrefixes (sampleService ["/platform"]),
        pathIsWithin samplePython (normal root) (normal m.publicPath) = false) :=
  have h : buildRoutePlan samplePython (sampleService ["/platform"])
      [sampleModule "portal" "/portal"] "portal" = .ok (samplePlan "portal" "/portal") := by
    decide +kernel
  ⟨h, reserved_unmatched_iff h⟩

/-- A module at `/platform` takes the requests to the reserved `/platform/admin`. -/
theorem reserved_request_matched :
    ∃ py service modules slug routeId body,
      buildRoutePlan py service modules slug = .ok (.route routeId body) ∧
      ∃ root ∈ reservedPrefixes service, ∃ request,
        pathIsWithin py request (normal root) = true ∧
        (Plan.route routeId body).matches request = true :=
  ⟨samplePython, sampleService ["/platform/admin"], [sampleModule "portal" "/platform"], "portal",
    "module-portal", sampleBody "portal" "/platform", by decide +kernel, "/platform/admin",
    by decide +kernel, "/platform/admin/users", by decide +kernel, by decide +kernel⟩

/-! ### Two modules -/

theorem routeIdForModule_eq_iff {a b : String} (hab : a ≠ b) :
    routeIdForModule a = routeIdForModule b ↔
      (a = "module-" ++ b ∧ "module-".toList.isPrefixOf b.toList = false) ∨
      (b = "module-" ++ a ∧ "module-".toList.isPrefixOf a.toList = false) := by
  have hprefixed : ∀ s : String, "module-".toList.isPrefixOf ("module-" ++ s).toList = true :=
    fun s => by
      rw [List.isPrefixOf_iff_prefix, String.toList_append]
      exact List.prefix_append _ _
  unfold routeIdForModule
  by_cases ha : "module-".toList.isPrefixOf a.toList = true <;>
    by_cases hb : "module-".toList.isPrefixOf b.toList = true
  · rw [if_pos ha, if_pos hb, ha, hb]
    simp [hab]
  · rw [if_pos ha, if_neg hb]
    simp only [Bool.not_eq_true] at hb
    constructor
    · exact fun h => .inl ⟨h, hb⟩
    · rintro (⟨h, -⟩ | ⟨-, h⟩)
      · exact h
      · rw [ha] at h
        cases h
  · rw [if_neg ha, if_pos hb]
    simp only [Bool.not_eq_true] at ha
    constructor
    · exact fun h => .inr ⟨h.symm, ha⟩
    · rintro (⟨-, h⟩ | ⟨h, -⟩)
      · rw [hb] at h
        cases h
      · exact h.symm
  · rw [if_neg ha, if_neg hb]
    constructor
    · intro h
      have hlist := congrArg String.toList h
      rw [String.toList_append, String.toList_append, List.append_right_inj,
        String.toList_inj] at hlist
      exact absurd hlist hab
    · rintro (⟨rfl, -⟩ | ⟨rfl, -⟩)
      · exact absurd (hprefixed b) ha
      · exact absurd (hprefixed a) hb

/-- **The routes of two modules never match one request path; they have one identifier exactly if
one slug is the other with `module-` before it.** -/
theorem routes_disjoint_iff {a b routeIdA routeIdB : String} {bodyA bodyB : Json}
    (ha : buildRoutePlan py service modules a = .ok (.route routeIdA bodyA))
    (hb : buildRoutePlan py service modules b = .ok (.route routeIdB bodyB))
    (hab : strip a ≠ strip b) :
    (routeIdA ≠ routeIdB ∧ ∀ request, ¬((Plan.route routeIdA bodyA).matches request = true ∧
      (Plan.route routeIdB bodyB).matches request = true)) ↔
    ¬((strip a = "module-" ++ strip b ∧ "module-".toList.isPrefixOf (strip b).toList = false) ∨
      (strip b = "module-" ++ strip a ∧ "module-".toList.isPrefixOf (strip a).toList = false)) := by
  obtain ⟨m, path, hrouted⟩ := routed_of_build ha rfl
  obtain ⟨m', path', hrouted'⟩ := routed_of_build hb rfl
  obtain ⟨host, port, hplan⟩ := hrouted.plan_eq
  obtain ⟨host', port', hplan'⟩ := hrouted'.plan_eq
  have hids : routeIdA = routeIdForModule (strip a) ∧ routeIdB = routeIdForModule (strip b) := by
    cases hplan
    cases hplan'
    exact ⟨rfl, rfl⟩
  rw [← routeIdForModule_eq_iff hab, ← hids.1, ← hids.2]
  refine and_iff_left fun request ⟨hmatch, hmatch'⟩ => ?_
  rw [hplan, matches_iff hrouted.validated] at hmatch
  rw [hplan', matches_iff hrouted'.validated] at hmatch'
  -- the row of the second module is one of the others of the first
  have hslug : m'.slug = strip b := by simpa using List.find?_some hrouted'.found
  obtain ⟨p, hp, hfree⟩ := hrouted.others m' (List.mem_of_find?_eq_some hrouted'.found)
    hrouted'.enabled (by rw [hslug]; exact hab.symm) hrouted'.hasPath
  cases hp.symm.trans hrouted'.validated
  have hoverlap : pathsOverlap py path path' = true := by
    rw [pathsOverlap, Bool.or_eq_true]
    exact (foldedWithin_or hmatch hmatch').imp foldedWithin_casefold foldedWithin_casefold
  rw [hfree] at hoverlap
  cases hoverlap

/-- Two modules with unrelated slugs. -/
theorem routes_disjoint_iff_sample :
    let modules := [sampleModule "portal" "/portal", sampleModule "maps" "/maps"]
    buildRoutePlan samplePython (sampleService []) modules "portal" =
      .ok (samplePlan "portal" "/portal") ∧
    buildRoutePlan samplePython (sampleService []) modules "maps" =
      .ok (samplePlan "maps" "/maps") ∧
    ((routeIdForModule "portal" ≠ routeIdForModule "maps" ∧ ∀ request,
      ¬((samplePlan "portal" "/portal").matches request = true ∧
        (samplePlan "maps" "/maps").matches request = true)) ↔
    ¬((strip "portal" = "module-" ++ strip "maps" ∧
        "module-".toList.isPrefixOf (strip "maps").toList = false) ∨
      (strip "maps" = "module-" ++ strip "portal" ∧
        "module-".toList.isPrefixOf (strip "portal").toList = false))) :=
  let modules := [sampleModule "portal" "/portal", sampleModule "maps" "/maps"]
  have ha : buildRoutePlan samplePython (sampleService []) modules "portal" =
      .ok (samplePlan "portal" "/portal") := by decide +kernel
  have hb : buildRoutePlan samplePython (sampleService []) modules "maps" =
      .ok (samplePlan "maps" "/maps") := by decide +kernel
  ⟨ha, hb, routes_disjoint_iff ha hb (by decide +kernel)⟩

/-- The modules `portal` and `module-portal` publish one route. -/
theorem route_id_shared :
    ∃ py service modules a b routeId bodyA bodyB,
      buildRoutePlan py service modules a = .ok (.route routeId bodyA) ∧
      buildRoutePlan py service modules b = .ok (.route routeId bodyB) ∧
      strip a ≠ strip b ∧ bodyA ≠ bodyB :=
  ⟨samplePython, sampleService [],
    [sampleModule "portal" "/portal", sampleModule "module-portal" "/maps"], "portal",
    "module-portal", "module-portal", sampleBody "portal" "/portal",
    sampleBody "module-portal" "/maps", by decide +kernel, by decide +kernel, by decide +kernel,
    by decide +kernel⟩

end ArchiDeal.Gateway
