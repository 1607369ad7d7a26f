import ArchiDeal.Lib.Calls
import ArchiDeal.Lib.Fields
import ArchiDeal.Lib.Passes
import ArchiDeal.Lib.Table
import ArchiDeal.Lib.Urls
import Mathlib.Data.List.Dedup

/-!
# The bootstrap of the gateway

`deploy/apisix/bootstrap.py`: it waits for the Admin API of APISIX, installs the metadata of plugins
and the routes of its file, and removes the routes with its prefix that the file does not have.

* `Admin`, `Call`, `adminApi`: the Admin API, whose listing has pages in any fixed order;
* `loadRoutes`, `installedManagedRouteIds`, `removeStaleManagedRoutes`, `main`: the script;
* `main_only`: what any run may do;
* `leads_listManagedRoutes`: the listing loop finds every managed route;
* `bootstrap_converges`: a run that completes leaves exactly the routes of the file, whatever
  earlier runs have done, and a second run changes nothing.

A route is addressed by its id: the script quotes it in the path, and the API unquotes it.
-/

namespace ArchiDeal.Gateway.Bootstrap

open Text Fields Calls Passes

/-! ### The Admin API -/

/-- How the API treats the next request. -/
structure Mood where
  /-- The request that waits for the API succeeds. -/
  ready : Bool
  status : ℕ
  /-- A request with an unexpected status takes effect. -/
  applied : Bool

/-- The state of the API. -/
structure Admin where
  /-- The routes by their ids, without the id. -/
  routes : Table String Json
  pluginMetadata : Table String Json
  mood : Mood

/-- The requests of the script. -/
inductive Call where
  /-- `GET /apisix/admin/routes?page=1&page_size=10`. -/
  | ready
  | putPluginMetadata (name : String) (payload : Json)
  | putRoute (id : String) (payload : Json)
  | deleteRoute (id : String)
  | listRoutes (page pageSize : ℕ)

/-- Their answers: whether the API is ready, a status, a status with a body. -/
abbrev Reply : Call → Type
  | .ready => Bool
  | .putPluginMetadata .. | .putRoute .. | .deleteRoute _ => ℕ
  | .listRoutes .. => ℕ × Json

/-- The statuses of a request that took effect. -/
def Call.accepted : Call → List ℕ
  | .putPluginMetadata .. | .putRoute .. => [200, 201]
  | .deleteRoute _ => [200, 204]
  | _ => [200]

def listedRoute (route : Sigma fun _ : String => Json) : Json :=
  let kvs := match route.2 with
    | .obj kvs => kvs
    | _ => []
  .obj [("key", .str ("/apisix/routes/" ++ route.1)),
    ("value", .obj (("id", .str route.1) :: kvs))]

/-- The orders in which routes can be listed. -/
structure Order where
  arrange : Table String Json → List (Sigma fun _ : String => Json)
  perm : ∀ t, (arrange t).Perm t.entries

variable (order : Order)

/-- The effect of a request on the routes and the metadata. -/
def Admin.apply (s : Admin) : Call → Admin
  | .putPluginMetadata name payload =>
    { s with pluginMetadata := s.pluginMetadata.insert name payload }
  | .putRoute id payload => { s with routes := s.routes.insert id payload }
  | .deleteRoute id => { s with routes := s.routes.erase id }
  | .ready | .listRoutes .. => s

/-- A page of the listing, with the true total. -/
def Admin.page (s : Admin) (page pageSize : ℕ) : Json :=
  .obj [("total", .int s.routes.entries.length),
    ("list", .arr ((((order.arrange s.routes).drop ((page - 1) * pageSize)).take pageSize).map
      listedRoute))]

/-- The Admin API. Its mood changes on its own; nobody else writes. -/
def adminApi : Server Admin Call Reply Mood where
  reply
    | .ready, s => s.mood.ready
    | .putPluginMetadata .., s | .putRoute .., s | .deleteRoute _, s => s.mood.status
    | .listRoutes page pageSize, s => (s.mood.status, s.page order page pageSize)
  effect c s := if s.mood.status ∈ c.accepted ∨ s.mood.applied then s.apply c else s
  drift mood s := { s with mood := mood }

/-! ### The script -/

/-- What the script raises, apart from a request that fails. -/
inductive Raised where
  | keyError
  | typeError
  | attributeError
  | runtimeError (message : String)
  /-- The model of the listing loop has no rounds left. -/
  | outOfFuel
  deriving DecidableEq

/-- A part of the script. -/
abbrev Script := Prog Call Reply Raised

def managedRoutePrefix : String := "archideal-"

/-- `route_id.startswith(MANAGED_ROUTE_PREFIX)`. -/
def isManaged (id : String) : Bool := managedRoutePrefix.toList.isPrefixOf id.toList

section Script

variable (py : FloatText) (repr : Json → String)

/-- A route of the file: its id and its payload. -/
def loadRoute (route : Json) : Except Raised (String × Json) :=
  match route with
  | .obj kvs =>
    match kvs.lookup "id" with
    | some id => .ok (pyStr py repr id, .obj (kvs.filter fun kv => kv.1 != "id"))
    | none => .error .keyError
  | _ => .error .typeError

/-- `json.loads(…)["routes"]`. -/
def routesOfFile : Json → Except Raised Json
  | .obj kvs => match kvs.lookup "routes" with
    | some value => .ok value
    | none => .error .keyError
  | _ => .error .typeError

/-- The items over which a value iterates. -/
def iterated : Json → Except Raised (List Json)
  | .arr items => .ok items
  | .str s => .ok (s.toList.map fun c => .str (String.ofList [c]))
  | .obj kvs => .ok (kvs.map fun kv => .str kv.1)
  | _ => .error .typeError

/-- The first lines of `main`: the routes of the file. -/
def loadRoutes (file : Json) : Except Raised (List (String × Json)) := do
  let value ← routesOfFile file
  let items ← iterated value
  let routes ← items.mapM (loadRoute py repr)
  ensure (decide (routes.map Prod.fst).Nodup) (.runtimeError "Bootstrap route IDs must be unique")
  ensure (!routes.isEmpty && routes.all fun route => isManaged route.1)
    (.runtimeError "Bootstrap route IDs must use the reserved 'archideal-' prefix")
  return routes

def waitForAdminApi : ℕ → Script Unit
  | 0 => pure ()
  | attempts + 1 => do
    if ← (Prog.invoke Call.ready : Script Bool) then pure ()
    else if attempts = 0 then .fail (.runtimeError "APISIX Admin API did not become ready")
    else waitForAdminApi attempts

/-- The check of a status; `what` names the request in the message. -/
def expectStatus (c : Call) (what : String) (status : ℕ) : Script Unit :=
  Prog.lift (ensure (c.accepted.contains status)
    (.runtimeError s!"Unexpected APISIX status {status} {what}"))

/-- The installation of the metadata of a plugin. -/
def putPlugin (plugin : String × Json) : Script Unit := do
  let status ← (Prog.invoke (Call.putPluginMetadata plugin.1 plugin.2) : Script ℕ)
  expectStatus (.putPluginMetadata plugin.1 plugin.2) ("for plugin " ++ plugin.1) status

/-- The installation of a route. -/
def putRoute (route : String × Json) : Script Unit := do
  let status ← (Prog.invoke (Call.putRoute route.1 route.2) : Script ℕ)
  expectStatus (.putRoute route.1 route.2)
    ("for route " ++ Urls.quote Urls.unreserved route.1) status

/-- The removal of a route. -/
def deleteRoute (id : String) : Script Unit := do
  let status ← (Prog.invoke (Call.deleteRoute id) : Script ℕ)
  expectStatus (.deleteRoute id) ("deleting route " ++ Urls.quote Urls.unreserved id) status

def installPluginMetadata (metadata : Option Json) : Script Unit :=
  match metadata with
  | none => pure ()
  | some (.obj kvs) =>
    match (kvs.lookup "plugin_metadata").getD (.obj []) with
    | .obj plugins => Prog.each putPlugin plugins
    | _ => .fail .attributeError
  | some _ => .fail .attributeError

/-- The id of an item of the listing; `none` if it is skipped. -/
def itemRouteId (item : Json) : Option String :=
  if !item.isObj then none
  else
    let routeId := match item.get? "value" with
      | some (.obj kvs) => kvs.lookup "id"
      | _ => none
    match routeId.filter Json.truthy with
    | some v => some (pyStr py repr v)
    | none =>
      let key := ((item.get? "key").map (pyStr py repr)).getD ""
      some (String.ofList (key.toList.reverse.takeWhile (· != '/')).reverse)

/-- The total of a page; `none` if it is not a number, or negative. -/
def totalOf (payload : Json) (items : List Json) : Option ℕ :=
  match payload.get? "total" with
  | none => some items.length
  | some (.int n) => if n < 0 then none else some n.toNat
  | some (.bool b) => some (if b then 1 else 0)
  | some _ => none

/-- The loop of `installed_managed_route_ids`. -/
def listManagedRoutes (fuel page : ℕ) (routeIds : List String) : Script (List String) :=
  match fuel with
  | 0 => .fail .outOfFuel
  | fuel + 1 => do
    let (status, payload) ← (Prog.invoke (Call.listRoutes page 100) : Script (ℕ × Json))
    Prog.lift (ensure payload.isObj
      (.runtimeError "APISIX Admin API returned a non-object response"))
    Prog.lift (ensure (status == 200)
      (.runtimeError s!"Unexpected APISIX route-list status {status}"))
    let items ← Prog.lift (match payload.get? "list" with
      | none | some .null => .ok []
      | some (.arr items) => .ok items
      | some _ =>
        .error (Raised.runtimeError "APISIX route-list response has an invalid list format"))
    let routeIds := routeIds ++ (items.filterMap (itemRouteId py repr)).filter isManaged
    let total ← Prog.lift (match totalOf payload items with
      | some total => .ok total
      | none => .error (Raised.runtimeError "APISIX route-list response has an invalid total"))
    if total ≤ page * 100 ∨ items.isEmpty then pure routeIds
    else listManagedRoutes fuel (page + 1) routeIds

def installedManagedRouteIds (fuel : ℕ) : Script (List String) :=
  listManagedRoutes py repr fuel 1 []

def removeStaleManagedRoutes (fuel : ℕ) (desiredRouteIds : List String) : Script Unit := do
  let installed ← installedManagedRouteIds py repr fuel
  let stale := (installed.dedup.filter fun id => !desiredRouteIds.contains id).insertionSort
    fun a b => Text.le a b
  Prog.each deleteRoute stale

def main (fuel : ℕ) (file : Json) (metadata : Option Json) : Script Unit := do
  let routes ← (Prog.lift (loadRoutes py repr file) : Script (List (String × Json)))
  waitForAdminApi 60
  installPluginMetadata metadata
  Prog.each putRoute routes
  removeStaleManagedRoutes py repr fuel (routes.map Prod.fst)

end Script

/-! ### What any run may do -/

variable {order} {py : FloatText} {repr : Json → String} {file : Json} {metadata : Option Json}
  {routes : List (String × Json)} {fuel : ℕ} {s : Admin}

/-- The requests of a run: routes of the file are installed, and managed routes that it does not
have are removed. -/
def Allowed (routes : List (String × Json)) : Call → Prop
  | .putRoute id payload => (id, payload) ∈ routes
  | .deleteRoute id => isManaged id = true ∧ id ∉ routes.map Prod.fst
  | _ => True

theorem loadRoutes_eq_ok (h : loadRoutes py repr file = .ok routes) :
    (routes.map Prod.fst).Nodup ∧ ∀ route ∈ routes, isManaged route.1 = true := by
  unfold loadRoutes at h
  obtain ⟨_, -, h⟩ := bind_eq_ok.1 h
  obtain ⟨_, -, h⟩ := bind_eq_ok.1 h
  obtain ⟨_, -, h⟩ := bind_eq_ok.1 h
  obtain ⟨_, hnodup, h⟩ := bind_eq_ok.1 h
  obtain ⟨_, hmanaged, h⟩ := bind_eq_ok.1 h
  cases h
  rw [ensure_eq_ok] at hnodup hmanaged
  exact ⟨of_decide_eq_true hnodup, List.all_eq_true.1 (Bool.and_eq_true_iff.1 hmanaged).2⟩

theorem only_expectStatus {C : Call → Prop} (c : Call) (what : String) (status : ℕ) :
    (expectStatus c what status).Only C :=
  Prog.only_lift _

theorem only_waitForAdminApi (attempts : ℕ) : (waitForAdminApi attempts).Only (Allowed routes) := by
  induction attempts with
  | zero => trivial
  | succ attempts ih =>
    refine (Prog.only_invoke trivial).bind fun ready => ?_
    split_ifs
    · trivial
    · trivial
    · exact ih

theorem only_installPluginMetadata :
    (installPluginMetadata metadata).Only (Allowed routes) := by
  unfold installPluginMetadata
  split
  · trivial
  · split
    · exact .each fun plugin _ => (Prog.only_invoke trivial).bind fun status =>
        only_expectStatus _ _ status
    · trivial
  · trivial

theorem listManagedRoutes_returns (routes : List (String × Json)) (fuel page : ℕ)
    (ids : List String)
    (hids : ∀ id ∈ ids, isManaged id = true) :
    (listManagedRoutes py repr fuel page ids).Only (Allowed routes) ∧
      (listManagedRoutes py repr fuel page ids).Returning fun ids =>
        ∀ id ∈ ids, isManaged id = true := by
  induction fuel generalizing page ids with
  | zero => exact ⟨trivial, trivial⟩
  | succ fuel ih =>
    have hmore (items : List Json) : ∀ id ∈ ids ++
        (items.filterMap (itemRouteId py repr)).filter isManaged, isManaged id = true := by
      intro id hid
      rcases List.mem_append.1 hid with hid | hid
      · exact hids id hid
      · exact (List.mem_filter.1 hid).2
    rw [listManagedRoutes]
    constructor
    · refine (Prog.only_invoke trivial).bind fun reply => ?_
      refine (Prog.only_lift _).bind fun _ => (Prog.only_lift _).bind fun _ =>
        (Prog.only_lift _).bind fun items => (Prog.only_lift _).bind fun total => ?_
      split_ifs
      · trivial
      · exact (ih (page + 1) _ (hmore items)).1
    · refine (Prog.returning_true _).bind fun reply _ => ?_
      refine (Prog.returning_true _).bind fun _ _ => (Prog.returning_true _).bind fun _ _ =>
        (Prog.returning_true _).bind fun items _ => (Prog.returning_true _).bind fun total _ => ?_
      split_ifs
      · exact hmore items
      · exact (ih (page + 1) _ (hmore items)).2

theorem mem_stale {installed desired : List String} {id : String} :
    id ∈ (installed.dedup.filter fun id => !desired.contains id).insertionSort
      (fun a b => Text.le a b) ↔ id ∈ installed ∧ id ∉ desired := by
  rw [List.mem_insertionSort, List.mem_filter, List.mem_dedup]
  simp

theorem main_eq (hfile : loadRoutes py repr file = .ok routes) :
    main py repr fuel file metadata = waitForAdminApi 60 >>= fun _ =>
      installPluginMetadata metadata >>= fun _ => Prog.each putRoute routes >>= fun _ =>
        removeStaleManagedRoutes py repr fuel (routes.map Prod.fst) := by
  rw [main, hfile]
  rfl

/-- **What any run may do.** -/
theorem main_only (hfile : loadRoutes py repr file = .ok routes) :
    (main py repr fuel file metadata).Only (Allowed routes) := by
  rw [main_eq hfile]
  refine (only_waitForAdminApi 60).bind fun _ => only_installPluginMetadata.bind fun _ => ?_
  refine (Prog.Only.each fun route hroute => ?_).bind fun _ => ?_
  · exact (Prog.only_invoke (show Allowed routes (.putRoute _ _) from hroute)).bind fun status =>
      only_expectStatus _ _ status
  · obtain ⟨honly, hreturns⟩ := listManagedRoutes_returns routes fuel 1 [] nofun
    refine honly.bind_returning hreturns fun installed hinstalled => ?_
    refine Prog.Only.each fun id hid => ?_
    rw [mem_stale] at hid
    exact (Prog.only_invoke (show Allowed _ (.deleteRoute id) from
      ⟨hinstalled id hid.1, hid.2⟩)).bind
      fun status => only_expectStatus _ _ status

/-! ### Scripts and routes -/

/-- A condition on the routes of a state, where those of every state since the start satisfy `j`. -/
abbrev Routes (j p : Table String Json → Prop) : Admin × List Admin → Prop :=
  Prog.Along (fun s => j s.routes) fun s => p s.routes

variable {j p : Table String Json → Prop} {F : Prop}

/-- From routes with `p` the script leads to routes with `q`, if it returns; the routes satisfy `j`
all the time, and if the model has no rounds left, then `F`. -/
abbrev Leads {α : Type} (order : Order) (j p : Table String Json → Prop) (script : Script α)
    (q : α → Table String Json → Prop) (F : Prop) : Prop :=
  Prog.Triple (adminApi order).traced (fun _ => True) (Routes j p) script (fun a => Routes j (q a))
    (fun e => Routes j fun _ => e = .outOfFuel → F) (Routes j fun _ => True)

section Run

variable {α : Type} {script : Script α} {q : α → Table String Json → Prop}
  {ws : List (Weather Mood)}
  {r : Calls.Outcome Raised α × Admin × List Admin}

theorem Leads.ends (h : Leads order j p script q F)
    (hr : script.run (adminApi order).traced ws (s, []) = r) (hp : p s.routes) (hj : j s.routes) :
    Prog.Ends (fun a => Routes j (q a)) (fun e => Routes j fun _ => e = .outOfFuel → F)
      (Routes j fun _ => True) r.1 r.2 := by
  rw [← hr]
  exact Prog.Triple.run h ⟨⟨hp, hj⟩, List.forall_mem_nil _⟩ fun _ _ _ _ => trivial

theorem Leads.along (h : Leads order j p script q F)
    (hr : script.run (adminApi order).traced ws (s, []) = r) (hp : p s.routes) (hj : j s.routes) :
    ∀ t ∈ r.2.1 :: r.2.2, j t.routes := by
  have hends := h.ends hr hp hj
  obtain ⟨outcome, t, history⟩ := r
  rw [List.forall_mem_cons]
  cases outcome <;> exact ⟨hends.1.2, hends.2⟩

end Run

theorem effect_routes (order : Order) (c : Call) (s : Admin) :
    ((adminApi order).effect c s).routes = (s.apply c).routes ∨
      (s.mood.status ∉ c.accepted ∧ ((adminApi order).effect c s).routes = s.routes) := by
  by_cases h : s.mood.status ∈ c.accepted ∨ s.mood.applied
  · exact .inl (by rw [adminApi]; simp only [if_pos h])
  · exact .inr ⟨fun hs => h (.inl hs), by rw [adminApi]; simp only [if_neg h]⟩

/-- **Requests.** -/
theorem leads_invoke {c : Call} {q : Reply c → Table String Json → Prop}
    (h : ∀ s, p s.routes → j s.routes → j ((adminApi order).effect c s).routes ∧
      q ((adminApi order).reply c s) ((adminApi order).effect c s).routes) :
    Leads order j p (Prog.invoke c) q F :=
  Prog.triple_invoke_along (S := adminApi order) (fun _ _ _ h => h) (fun _ _ _ h => h) h

theorem leads_invoke_frame {c : Call} (h : ∀ s : Admin, (s.apply c).routes = s.routes) :
    Leads order j p (Prog.invoke c) (fun _ => p) F := by
  refine leads_invoke fun s hp hj => ?_
  have heffect : ((adminApi order).effect c s).routes = s.routes := by
    rcases effect_routes order c s with hs | ⟨-, hs⟩
    · rw [hs, h]
    · exact hs
  rw [heffect]
  exact ⟨hj, hp⟩

theorem leads_lift {α : Type} {x : Except Raised α} {q : α → Table String Json → Prop}
    (hok : ∀ a T, x = .ok a → p T → q a T) (herror : x ≠ .error .outOfFuel) :
    Leads order j p (Prog.lift x) q F :=
  Prog.triple_lift (fun a _ ha hs => ⟨⟨hok a _ ha hs.1.1, hs.1.2⟩, hs.2⟩)
    fun _ _ he hs => ⟨⟨fun h => absurd (h ▸ he) herror, hs.1.2⟩, hs.2⟩

theorem ensure_ne_outOfFuel {b : Bool} {message : String} :
    ensure b (Raised.runtimeError message) ≠ .error .outOfFuel := by
  cases b <;> nofun

theorem leads_expectStatus {c : Call} {what : String} {status : ℕ} {q : Table String Json → Prop}
    (h : status ∈ c.accepted → ∀ T, p T → q T) :
    Leads order j p (expectStatus c what status) (fun _ => q) F := by
  refine leads_lift (fun _ T hok hp => h ?_ T hp) ensure_ne_outOfFuel
  rw [ensure_eq_ok] at hok
  simpa using hok

/-- **Requests for a change** that must have an accepted status. -/
theorem leads_change {c : Call} {what : String} {q : Table String Json → Prop}
    {script : Script Unit}
    (reply : Reply c → ℕ) (hreply : ∀ s, reply ((adminApi order).reply c s) = s.mood.status)
    (hscript : script = (Prog.invoke c : Script (Reply c)) >>= fun r =>
      expectStatus c what (reply r))
    (h : ∀ s : Admin, p s.routes → j s.routes → j (s.apply c).routes ∧ q (s.apply c).routes) :
    Leads order j p script (fun _ => q) F := by
  subst hscript
  refine Prog.Triple.bind (R := fun r => Routes j fun T => reply r ∈ c.accepted → q T)
    (leads_invoke fun s hp hj => ?_) fun r => leads_expectStatus fun hr T hT => hT hr
  rw [hreply]
  rcases effect_routes order c s with hs | ⟨hs, hsame⟩
  · rw [hs]
    exact ⟨(h s hp hj).1, fun _ => (h s hp hj).2⟩
  · rw [hsame]
    exact ⟨hj, fun hmem => absurd hmem hs⟩

theorem leads_putRoute {route : String × Json} {q : Table String Json → Prop}
    (h : ∀ T, p T → j T → j (T.insert route.1 route.2) ∧ q (T.insert route.1 route.2)) :
    Leads order j p (putRoute route) (fun _ => q) F :=
  leads_change (c := .putRoute route.1 route.2) (fun status => status) (fun _ => rfl) rfl
    fun s => h s.routes

theorem leads_deleteRoute {id : String} {q : Table String Json → Prop}
    (h : ∀ T, p T → j T → j (T.erase id) ∧ q (T.erase id)) :
    Leads order j p (deleteRoute id) (fun _ => q) F :=
  leads_change (c := .deleteRoute id) (fun status => status) (fun _ => rfl) rfl fun s => h s.routes

theorem leads_waitForAdminApi (attempts : ℕ) :
    Leads order j p (waitForAdminApi attempts) (fun _ => p) F := by
  induction attempts with
  | zero => exact Prog.triple_pure fun _ h => h
  | succ attempts ih =>
    refine Prog.Triple.bind (leads_invoke_frame fun _ => rfl) fun ready => ?_
    split_ifs
    · exact Prog.triple_pure fun _ h => h
    · exact Prog.triple_fail fun s h => ⟨⟨nofun, h.1.2⟩, h.2⟩
    · exact ih

theorem leads_installPluginMetadata :
    Leads order j p (installPluginMetadata metadata) (fun _ => p) F := by
  unfold installPluginMetadata
  split
  · exact Prog.triple_pure fun _ h => h
  · split
    · refine Prog.triple_each fun plugin _ => ?_
      exact Prog.Triple.bind (leads_invoke_frame fun _ => rfl) fun status =>
        leads_expectStatus fun _ _ h => h
    · exact Prog.triple_fail fun s h => ⟨⟨nofun, h.1.2⟩, h.2⟩
  · exact Prog.triple_fail fun s h => ⟨⟨nofun, h.1.2⟩, h.2⟩

/-! ### The listing -/

theorem itemRouteId_listedRoute (route : Sigma fun _ : String => Json) :
    itemRouteId py repr (listedRoute route) = some route.1 := by
  by_cases hid : route.1 = ""
  · simp [itemRouteId, listedRoute, Json.get?, Json.isObj, Json.truthy, hid, pyStr,
      List.lookup_cons, Option.filter]
  · simp [itemRouteId, listedRoute, Json.get?, Json.isObj, Json.truthy, hid, pyStr,
      List.lookup_cons, Option.filter]

/-- The managed ids of the first `n` routes of the listing. -/
def ListedIn (order : Order) (T : Table String Json) (n : ℕ) (ids : List String) : Prop :=
  ∀ id, id ∈ ids ↔ isManaged id = true ∧ id ∈ ((order.arrange T).take n).map Sigma.fst

theorem listedIn_add (py : FloatText) (repr : Json → String) {T : Table String Json} {n : ℕ}
    {ids : List String}
    (h : ListedIn order T n ids) (k : ℕ) :
    ListedIn order T (n + k) (ids ++
      (((((order.arrange T).drop n).take k).map listedRoute).filterMap
        (itemRouteId py repr)).filter isManaged) := by
  intro id
  have hids : ((((order.arrange T).drop n).take k).map listedRoute).filterMap
      (itemRouteId py repr) = (((order.arrange T).drop n).take k).map Sigma.fst := by
    rw [List.filterMap_map, ← List.filterMap_eq_map]
    exact List.filterMap_congr fun route _ => itemRouteId_listedRoute route
  rw [hids, List.mem_append, h id, List.mem_filter, List.take_add, List.map_append,
    List.mem_append]
  tauto

theorem listedIn_all {T : Table String Json} {n : ℕ} {ids : List String}
    (h : ListedIn order T n ids) (hn : T.entries.length ≤ n) (id : String) :
    id ∈ ids ↔ isManaged id = true ∧ (T.lookup id).isSome = true := by
  have hperm := order.perm T
  rw [h id, List.take_of_length_le (hperm.length_eq.trans_le hn), AList.lookup_isSome,
    (hperm.map Sigma.fst).mem_iff]
  rfl

theorem leads_of_fact {α : Type} {A : Prop} {script : Script α}
    {q : α → Table String Json → Prop} (h : A → Leads order j p script q F) :
    Leads order j (fun T => A ∧ p T) script q F :=
  fun s hs => h hs.1.1.1 s ⟨⟨hs.1.1.2, hs.1.2⟩, hs.2⟩

/-- **The listing loop finds every managed route.** At page `k + 1` it has the managed ids of the
first `k` pages; it ends at the last page. -/
theorem leads_listManagedRoutes (T : Table String Json) (fuel k : ℕ) (ids : List String)
    (hk : k * 100 ≤ T.entries.length) (hids : ListedIn order T (k * 100) ids) :
    Leads order j (· = T) (listManagedRoutes py repr fuel (k + 1) ids)
      (fun ids U => (∀ id, id ∈ ids ↔ isManaged id = true ∧ (T.lookup id).isSome = true) ∧ U = T)
      ((k + fuel) * 100 ≤ T.entries.length) := by
  induction fuel generalizing k ids with
  | zero => exact Prog.triple_fail fun s h => ⟨⟨fun _ => hk, h.1.2⟩, h.2⟩
  | succ fuel ih =>
    rw [listManagedRoutes]
    refine Prog.Triple.bind (R := fun r => Routes j fun U => r.2 = Json.obj
      [("total", .int T.entries.length), ("list", .arr
        ((((order.arrange T).drop (k * 100)).take 100).map listedRoute))] ∧ U = T)
      (leads_invoke fun s hs hj => ?_) ?_
    · have heffect : ((adminApi order).effect (.listRoutes (k + 1) 100) s).routes = s.routes := by
        rcases effect_routes order (.listRoutes (k + 1) 100) s with h | ⟨-, h⟩ <;> exact h
      rw [heffect]
      exact ⟨hj, by simp [adminApi, Admin.page, hs], hs⟩
    · rintro ⟨status, payload⟩
      refine leads_of_fact fun hpayload => ?_
      simp only at hpayload
      subst hpayload
      refine Prog.Triple.bind (leads_lift (fun _ _ _ h => h) ensure_ne_outOfFuel) fun _ => ?_
      refine Prog.Triple.bind (leads_lift (fun _ _ _ h => h) ensure_ne_outOfFuel) fun _ => ?_
      refine Prog.Triple.bind (R := fun items => Routes j fun U =>
        items = (((order.arrange T).drop (k * 100)).take 100).map listedRoute ∧ U = T)
        (leads_lift (fun items U h hU => ⟨(Except.ok.inj h).symm, hU⟩) nofun) fun items => ?_
      refine leads_of_fact fun hitems => ?_
      refine Prog.Triple.bind (R := fun total => Routes j fun U => total = T.entries.length ∧ U = T)
        (leads_lift (fun total U h hU => ⟨(Except.ok.inj h).symm, hU⟩) nofun) fun total => ?_
      refine leads_of_fact fun htotal => ?_
      have hmore := listedIn_add py repr hids 100
      rw [← hitems, ← Nat.succ_mul] at hmore
      split_ifs with hlast
      · -- The last page is one that reaches the total, or an empty one.
        refine Prog.triple_pure fun s hs => ⟨⟨⟨listedIn_all hmore ?_, hs.1.1⟩, hs.1.2⟩, hs.2⟩
        rcases hlast with hlast | hempty
        · exact htotal ▸ hlast
        · have hlength := (order.perm T).length_eq
          rw [List.isEmpty_iff_length_eq_zero, hitems, List.length_map, List.length_take,
            List.length_drop] at hempty
          omega
      · have hk' : (k + 1) * 100 ≤ T.entries.length := by omega
        have hfuel : k + (fuel + 1) = k + 1 + fuel := by omega
        rw [hfuel]
        exact ih (k + 1) _ hk' hmore

/-- **The ids that the script finds** are those of the managed routes. -/
theorem leads_installedManagedRouteIds (hF : ∀ T, p T → fuel ≤ T.entries.length → F) :
    Leads order j p (installedManagedRouteIds py repr fuel)
      (fun ids T => (∀ id, id ∈ ids ↔ isManaged id = true ∧ (T.lookup id).isSome = true) ∧ p T)
        F := by
  intro s hs
  refine Prog.wp_mono (leads_listManagedRoutes s.1.routes fuel 0 [] (Nat.zero_le _)
    (by simp [ListedIn]) s ⟨⟨rfl, hs.1.2⟩, hs.2⟩) ?_
  rintro (ids | e | -) t ht
  · exact ⟨⟨⟨ht.1.1.2 ▸ ht.1.1.1, ht.1.1.2 ▸ hs.1.1⟩, ht.1.2⟩, ht.2⟩
  · exact ⟨⟨fun he => hF _ hs.1.1 (by have := ht.1.1 he; omega), ht.1.2⟩, ht.2⟩
  · exact ht

/-! ### Runs that complete -/

theorem length_insert_le (T : Table String Json) (id : String) (payload : Json) :
    (T.insert id payload).entries.length ≤ T.entries.length + 1 := by
  rw [AList.entries_insert, List.length_cons]
  exact Nat.succ_le_succ (List.kerase_sublist id T.entries).length_le

/-- The removal of managed routes that are not desired, from routes `L`. -/
theorem leads_removeStaleManagedRoutes {L : String → Option Json} {n : ℕ} (desired : List String) :
    Leads order (fun _ => True) (fun T => (∀ id, T.lookup id = L id) ∧ T.entries.length ≤ n)
      (removeStaleManagedRoutes py repr fuel desired)
      (fun _ T => ∀ id, T.lookup id = if isManaged id = true ∧ id ∉ desired then none else L id)
      (fuel ≤ n) := by
  refine Prog.Triple.bind (leads_installedManagedRouteIds fun T hT hfuel => hfuel.trans hT.2)
    fun ids => ?_
  refine Prog.Triple.mono (P := Routes _ fun T =>
      (∀ id, id ∈ ids ↔ isManaged id = true ∧ (L id).isSome = true) ∧ ∀ id, T.lookup id = L id)
    (leads_of_fact fun hids => ?_) (fun s hs => ⟨⟨⟨fun id => ?_, hs.1.1.2.1⟩, trivial⟩, hs.2⟩)
    (fun _ _ h => h) (fun _ _ h => h) (fun _ h => h)
  · refine Prog.Triple.mono (Prog.triple_each_append (J := fun pre => Routes _ fun T =>
      ∀ id, T.lookup id = if id ∈ pre then none else L id) fun pre stale _ =>
        leads_deleteRoute fun T hT _ => ⟨trivial, fun id => ?_⟩)
      (fun s hs => ⟨⟨fun id => by simpa using hs.1.1 id, trivial⟩, hs.2⟩)
      (fun _ s hs => ⟨⟨fun id => ?_, trivial⟩, hs.2⟩) (fun _ _ h => h) (fun _ h => h)
    · by_cases hid : id = stale
      · subst hid
        simp [AList.lookup_erase]
      · rw [AList.lookup_erase_ne hid, hT id]
        simp [hid]
    · rw [hs.1.1 id]
      simp only [mem_stale, hids]
      by_cases hmanaged : isManaged id = true ∧ id ∉ desired
      · rw [if_pos hmanaged]
        cases L id <;> simp [hmanaged]
      · rw [if_neg hmanaged, if_neg fun h => hmanaged ⟨h.1.1, h.2⟩]
  · rw [hs.1.1.1 id, hs.1.1.2.1 id]

theorem mem_of_managed (hkeys : (routes.map Prod.fst).Nodup)
    (hmanaged : ∀ route ∈ routes, isManaged route.1 = true) (L : String → Option Json) (id : String)
    (payload : Json) :
    (if isManaged id = true ∧ id ∉ routes.map Prod.fst then none else written L routes id) =
        some payload ↔
      if isManaged id = true then (id, payload) ∈ routes else L id = some payload := by
  rw [written_apply]
  by_cases hid : id ∈ routes.map Prod.fst
  · obtain ⟨route, hroute, rfl⟩ := List.mem_map.1 hid
    rw [if_neg fun h => h.2 hid, if_pos (hmanaged route hroute), last_of_mem hkeys hroute,
      Option.some_or, Option.some_inj]
    constructor
    · rintro rfl
      exact hroute
    · exact fun h => congrArg Prod.snd (List.inj_on_of_nodup_map hkeys hroute h rfl)
  · have hnot (payload : Json) : (id, payload) ∉ routes := fun h => hid (List.mem_map.2 ⟨_, h, rfl⟩)
    have hlast : last id routes = none :=
      Option.eq_none_iff_forall_ne_some.2 fun payload h => hnot payload (mem_of_last h)
    by_cases hm : isManaged id = true
    · simp [hm, hid, hnot]
    · simp [hm, hlast]

/-- **A run that completes** leaves the routes of the file and the routes of others. -/
theorem leads_main {L : String → Option Json} {n : ℕ}
    (hfile : loadRoutes py repr file = .ok routes) :
    Leads order (fun _ => True) (fun T => (∀ id, T.lookup id = L id) ∧ T.entries.length ≤ n)
      (main py repr fuel file metadata)
      (fun _ T => ∀ id payload, T.lookup id = some payload ↔
        if isManaged id = true then (id, payload) ∈ routes else L id = some payload)
      (fuel ≤ n + routes.length) := by
  obtain ⟨hkeys, hmanaged⟩ := loadRoutes_eq_ok hfile
  rw [main_eq hfile]
  refine Prog.Triple.bind (leads_waitForAdminApi 60) fun _ => ?_
  refine Prog.Triple.bind leads_installPluginMetadata fun _ => ?_
  refine Prog.Triple.bind (R := fun _ => Routes (fun _ => True) fun T =>
    (∀ id, T.lookup id = written L routes id) ∧ T.entries.length ≤ n + routes.length) ?_ fun _ => ?_
  · refine Prog.triple_each_append (J := fun pre => Routes _ fun T =>
      (∀ id, T.lookup id = written L pre id) ∧ T.entries.length ≤ n + pre.length) fun pre route _ =>
        leads_putRoute fun T hT _ => ⟨trivial, fun id => ?_, ?_⟩
    · rw [Table.lookup_insert_eq, written_concat, Function.update_apply, hT.1 id]
    · have hlength := length_insert_le T route.1 route.2
      rw [List.length_append, List.length_singleton]
      omega
  · refine Prog.Triple.mono (leads_removeStaleManagedRoutes (routes.map Prod.fst)) (fun _ h => h)
      (fun _ s hs => ⟨⟨fun id payload => ?_, trivial⟩, hs.2⟩) (fun _ _ h => h) (fun _ h => h)
    rw [hs.1.1 id]
    exact mem_of_managed hkeys hmanaged L id payload

/-- **A second run** leaves the routes alone at every moment. -/
theorem leads_main_again {L : String → Option Json} (hfile : loadRoutes py repr file = .ok routes)
    (hL : ∀ id payload, isManaged id = true → (L id = some payload ↔ (id, payload) ∈ routes)) :
    Leads order (fun T => ∀ id, T.lookup id = L id) (fun _ => True)
      (main py repr fuel file metadata)
      (fun _ _ => True) True := by
  obtain ⟨-, hmanaged⟩ := loadRoutes_eq_ok hfile
  rw [main_eq hfile]
  refine Prog.Triple.bind (leads_waitForAdminApi 60) fun _ => ?_
  refine Prog.Triple.bind leads_installPluginMetadata fun _ => ?_
  refine Prog.Triple.bind (Prog.triple_each fun route hroute =>
    leads_putRoute fun T _ hT => ⟨fun id => ?_, trivial⟩) fun _ => ?_
  · rw [Table.lookup_insert_eq, hT id]
    split_ifs with hid
    · rw [hid, (hL route.1 route.2 (hmanaged route hroute)).2 hroute]
    · rfl
  refine Prog.Triple.bind (leads_installedManagedRouteIds fun _ _ _ => trivial) fun ids => ?_
  intro s hs
  -- Every managed id that is found is one of the file, so that nothing is stale.
  have hstale : (ids.dedup.filter fun id => !(routes.map Prod.fst).contains id).insertionSort
      (fun a b => Text.le a b) = [] := by
    refine List.eq_nil_iff_forall_not_mem.2 fun id hid => ?_
    rw [mem_stale, hs.1.1.1 id, hs.1.2 id] at hid
    obtain ⟨⟨hmanaged, hsome⟩, hid⟩ := hid
    obtain ⟨payload, hpayload⟩ := Option.isSome_iff_exists.1 hsome
    exact hid (List.mem_map.2 ⟨_, (hL id payload hmanaged).1 hpayload, rfl⟩)
  rw [hstale]
  exact ⟨⟨trivial, hs.1.2⟩, hs.2⟩

/-! ### Any run -/

theorem present_of_allowed {c : Call} (hc : Allowed routes c) {id : String}
    (hid : id ∈ routes.map Prod.fst) (h : (s.routes.lookup id).isSome = true) :
    (((adminApi order).effect c s).routes.lookup id).isSome = true := by
  rcases effect_routes order c s with heffect | ⟨-, heffect⟩
  · rw [heffect]
    cases c with
    | putRoute other payload =>
      show ((s.routes.insert other payload).lookup id).isSome = true
      rw [Table.lookup_insert_eq]
      split_ifs
      · rfl
      · exact h
    | deleteRoute other =>
      show ((s.routes.erase other).lookup id).isSome = true
      rw [AList.lookup_erase_ne, h]
      rintro rfl
      exact hc.2 hid
    | _ => exact h
  · rw [heffect, h]

theorem others_of_allowed {c : Call} (hmanaged : ∀ route ∈ routes, isManaged route.1 = true)
    (hc : Allowed routes c) {id : String} (hid : isManaged id = false) :
    ((adminApi order).effect c s).routes.lookup id = s.routes.lookup id := by
  rcases effect_routes order c s with heffect | ⟨-, heffect⟩
  · rw [heffect]
    cases c with
    | putRoute other payload =>
      show (s.routes.insert other payload).lookup id = _
      rw [Table.lookup_insert_eq, if_neg]
      rintro rfl
      exact absurd (hmanaged _ hc) (by simp [hid])
    | deleteRoute other =>
      show (s.routes.erase other).lookup id = _
      rw [AList.lookup_erase_ne]
      rintro rfl
      exact absurd hc.1 (by simp [hid])
    | _ => rfl
  · rw [heffect]

/-- A run of the script that may have failed: its file of routes, its file of metadata, its weather.
-/
structure Attempt where
  fuel : ℕ
  file : Json
  metadata : Option Json
  weather : List (Weather Mood)

/-- The state after a run. -/
def Attempt.state (order : Order) (py : FloatText) (repr : Json → String) (s : Admin)
    (attempt : Attempt) : Admin :=
  ((main py repr attempt.fuel attempt.file attempt.metadata).run (adminApi order) attempt.weather
    s).2

theorem others_attempt (attempt : Attempt) (s : Admin) {id : String} (hid : isManaged id = false) :
    (attempt.state order py repr s).routes.lookup id = s.routes.lookup id := by
  cases hfile : loadRoutes py repr attempt.file with
  | error e =>
    rw [Attempt.state, main, hfile]
    rfl
  | ok routes =>
    have hstable : Prog.Stable (adminApi order) (fun _ => True)
        fun t => t.routes.lookup id = s.routes.lookup id := fun _ _ _ h => h
    refine ((main_only hfile).triple hstable fun c t hc ht => ?_).run_always rfl
      fun _ _ _ _ => trivial
    rw [others_of_allowed (loadRoutes_eq_ok hfile).2 hc hid, ht]

theorem others_attempts (attempts : List Attempt) (s : Admin) {id : String}
    (hid : isManaged id = false) :
    (attempts.foldl (Attempt.state order py repr) s).routes.lookup id = s.routes.lookup id := by
  induction attempts generalizing s with
  | nil => rfl
  | cons attempt attempts ih => rw [List.foldl_cons, ih, others_attempt attempt s hid]

/-- At no moment of a run is a desired route absent that existed before. -/
theorem leads_main_present (s : Admin) (hfile : loadRoutes py repr file = .ok routes) :
    Leads order (fun T => ∀ id ∈ routes.map Prod.fst, (s.routes.lookup id).isSome = true →
      (T.lookup id).isSome = true) (fun _ => True) (main py repr fuel file metadata)
      (fun _ _ => True) True := by
  refine Prog.Triple.mono ((main_only hfile).triple
    (Prog.stable_along (fun _ _ _ h => h) fun _ _ _ h => h) fun c t hc ht => ?_) (fun _ h => h)
    (fun _ _ h => h) (fun _ _ h => ⟨⟨fun _ => trivial, h.1.2⟩, h.2⟩) fun _ h => h
  exact ht.effect ⟨trivial, fun id hid hs => present_of_allowed hc hid (ht.1.2 id hid hs)⟩

/-- **The bootstrap converges to its file.** After any earlier runs, with any files, that ended in
any way, a run that completes leaves the routes of the file and the routes of others; another run
leaves the routes alone at every moment. At no moment of a run is a desired route absent that
existed before. The listing loop of a run ends. -/
theorem bootstrap_converges (order : Order) (py : FloatText) (repr : Json → String) (s₀ : Admin)
    (earlier : List Attempt) (now again : Attempt) (routes : List (String × Json))
    (hfile : loadRoutes py repr now.file = .ok routes) (hagain : again.file = now.file) :
    let s := earlier.foldl (Attempt.state order py repr) s₀
    let run := (main py repr now.fuel now.file now.metadata).run (adminApi order).traced now.weather
      (s, [])
    let rerun := (main py repr again.fuel again.file again.metadata).run (adminApi order).traced
      again.weather (run.2.1, [])
    (run.1 = .returned () →
      (∀ id payload, run.2.1.routes.lookup id = some payload ↔
        if isManaged id = true then (id, payload) ∈ routes
        else s₀.routes.lookup id = some payload) ∧
      ∀ t ∈ rerun.2.1 :: rerun.2.2, ∀ id, t.routes.lookup id = run.2.1.routes.lookup id) ∧
    (∀ t ∈ run.2.1 :: run.2.2, ∀ id ∈ routes.map Prod.fst, (s.routes.lookup id).isSome = true →
      (t.routes.lookup id).isSome = true) ∧
    (s.routes.entries.length + routes.length < now.fuel → run.1 ≠ .raised .outOfFuel) := by
  intro s run rerun
  -- the runs before this one have touched no route of others
  have hends := (leads_main hfile).ends (s := s) (r := run) rfl ⟨fun _ => rfl, le_rfl⟩ trivial
  refine ⟨fun hreturned => ?_, (leads_main_present s hfile).along (r := run) rfl trivial
    fun _ _ h => h, fun hfuel hraised => ?_⟩
  · rw [hreturned] at hends
    have hroutes (id payload) : run.2.1.routes.lookup id = some payload ↔
        if isManaged id = true then (id, payload) ∈ routes else s₀.routes.lookup id =
          some payload := by
      rw [hends.1.1 id payload]
      cases hid : isManaged id with
      | true => rfl
      | false => rw [others_attempts earlier s₀ hid]
    refine ⟨hroutes, (leads_main_again (hagain ▸ hfile) fun id payload hid => ?_).along
      (r := rerun) rfl trivial fun _ => rfl⟩
    rw [hroutes id payload, if_pos hid]
  · rw [hraised] at hends
    exact absurd (hends.1.1 rfl) (Nat.not_le.2 hfuel)

/-- A store with an old route and a route of others. -/
def sampleStore : Admin where
  routes := [⟨"archideal-old", .obj []⟩, ⟨"grafana", .obj []⟩].toAList
  pluginMetadata := ∅
  mood := ⟨true, 200, false⟩

/-- A run with one route whose weather is as given. -/
def sampleAttempt (weather : List (Weather Mood)) : Attempt where
  fuel := 4
  file := .obj [("routes", .arr [.obj [("id", .str "archideal-api"), ("uri", .str "/api/*")]])]
  metadata := none
  weather := weather

/-- The first run loses the answer to its second request; the next one removes the old route. -/
theorem bootstrap_converges_sample :
    let order : Order := ⟨fun t => t.entries, fun _ => .rfl⟩
    let py : FloatText := ⟨fun _ => "", fun _ => none⟩
    let earlier := sampleAttempt [⟨[], .served⟩, ⟨[], .lostAfter⟩]
    let run := (main py (fun _ => "") 4 (sampleAttempt []).file none).run (adminApi order).traced []
      ([earlier].foldl (Attempt.state order py fun _ => "") sampleStore, [])
    run.1 = .returned () ∧ ∀ payload, run.2.1.routes.lookup "archideal-old" ≠ some payload := by
  intro order py earlier run
  have hreturned : run.1 = .returned () := by decide +kernel
  have h := (bootstrap_converges order py (fun _ => "") sampleStore [earlier] (sampleAttempt [])
    (sampleAttempt []) [("archideal-api", .obj [("uri", .str "/api/*")])] (by decide +kernel)
    rfl).1 hreturned
  refine ⟨hreturned, fun payload hold => ?_⟩
  have hmem := (h.1 "archideal-old" payload).1 hold
  rw [if_pos (by decide)] at hmem
  simp at hmem

end ArchiDeal.Gateway.Bootstrap
