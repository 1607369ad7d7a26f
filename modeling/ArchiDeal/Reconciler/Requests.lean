import ArchiDeal.Reconciler.Runs
import ArchiDeal.Lib.Transition

/-!
# Requests on one deployment

`runtime_controller_service/asgi.py`: a request is dispatched to a run of the reconciler. The Lease
serializes the runs that change a deployment, so that the system of one deployment takes one step
for each request (`step`); the label carries the request and everything that happens around its
calls. A status request that overlaps another run is part of the drift of that run.

The text of a body that is not UTF-8 is refused before it is read and has no counterpart here.
-/

namespace ArchiDeal.Reconciler

open Text Hosting Calls Json

/-! ### The body of a request -/

def maxRequestBytes : ℕ := 262144

variable (settings : ControllerSettings) (py : FloatReader)

/-- `_json_body` of a body that is required. A number of more than 4300 digits and a nesting that
exhausts the stack are not caught; a lone surrogate or a number that is not finite is refused by the
canonical encoding later on. -/
def jsonBody (body : String) : Except ControllerError Json := do
  ensure (body.utf8ByteSize ≤ maxRequestBytes)
    (.contract "The runtime request body is too large." "request_too_large" 413)
  ensure (body != "")
    (.contract "A JSON request body is required." "invalid_runtime_contract" 400)
  match loads (.unique py) body.toList.length body.toList with
  | .ok value => pure value
  | .error .malformed | .error .hook =>
    throw (.contract "The JSON request body is malformed." "invalid_runtime_contract" 400)
  | .error _ => throw .unexpected

/-- The deployment in a body. -/
def desiredBody (allowAbsent : Bool) (body : String) :
    Except ControllerError DesiredDeployment := do
  let payload ← jsonBody py body
  parseDesiredDeployment settings allowAbsent payload

/-- The deployment in a body, checked against the path of the request. -/
def addressedBody (deploymentId : String) (body : String) :
    Except ControllerError DesiredDeployment := do
  let d ← desiredBody settings py false body
  ensure (d.deploymentId == deploymentId)
    (.contract "The payload deployment identifier does not match its path.")
  pure d

/-- The deployment in the body of a `DELETE`, if there is one. -/
def deleteBody (deploymentId : String) (body : String) :
    Except ControllerError (Option DesiredDeployment) := do
  if body = "" then pure none
  else
    let d ← desiredBody settings py true body
    ensure (d.deploymentId == deploymentId)
      (.contract "The DELETE payload deployment identifier does not match its path.")
    pure (some d)

/-! ### Requests -/

/-- The requests on a deployment. -/
inductive Request
  /-- `POST /v1/deployments`. -/
  | create (body : String)
  /-- `PUT /v1/deployments/<id>`. -/
  | replace (body : String)
  /-- `POST /v1/deployments/<id>/<action>`. -/
  | act (action : ActionName) (body : String)
  /-- `DELETE /v1/deployments/<id>`. -/
  | delete (body : String)
  /-- `GET /v1/deployments/<id>`. -/
  | status

/-- Is this a deploy or an action? -/
def Request.deploys : Request → Bool
  | create _ | replace _ | act _ _ => true
  | delete _ | status => false

/-- May the request create the deployment? -/
def Request.creates : Request → Bool
  | create _ => true
  | _ => false

/-- The deployment that a deploy or an action asks for. -/
def Request.desired : Request → Option DesiredDeployment
  | create body | replace body | act _ body => (desiredBody settings py false body).toOption
  | delete _ | status => none

/-- The run of a request on the deployment `deploymentId`. -/
def Request.program (deploymentId requestId : String) : Request → Run RuntimeResult
  | create body => do
    let d ← .lift (desiredBody settings py false body)
    deployUnlocked settings py d requestId false ""
  | replace body => do
    let d ← .lift (addressedBody settings py deploymentId body)
    deployUnlocked settings py d requestId true ""
  | act action body => do
    let d ← .lift (addressedBody settings py deploymentId body)
    actionUnlocked settings py d action requestId
  | delete body => do
    let desired ← .lift (deleteBody settings py deploymentId body)
    undeployUnlocked settings py deploymentId requestId desired
  | status => observe settings py deploymentId

/-- Is the request on this deployment? The payload of a `POST` says which deployment it is on. -/
def Request.isOn (deploymentId : String) : Request → Bool
  | create body => match desiredBody settings py false body with
    | .ok d => d.deploymentId == deploymentId
    | .error _ => true
  | _ => true

/-! ### The system of one deployment -/

/-- One request: its `Idempotency-Key` and what happens around its calls. -/
structure Label where
  request : Request
  requestId : String
  weather : List (Weather Drift)

variable (api : ApiServer) (deploymentId : String)

/-- How a request ends, and what it leaves. -/
def serve (s : Cluster) (l : Label) : Outcome ControllerError RuntimeResult × Tracked :=
  (l.request.program settings py deploymentId l.requestId).run (tracked api fun _ => true) l.weather
    (s, [])

/-- One step of the system. -/
def step (s : Cluster) (l : Label) : Option Cluster :=
  if l.request.isOn settings py deploymentId then
    some (serve settings py api deploymentId s l).2.1
  else none

/-- A deploy or an action is accepted when it writes the state object. -/
def accepts (s : Cluster) (l : Label) : Bool :=
  l.request.deploys && l.request.isOn settings py deploymentId &&
    applies (stateKey settings deploymentId) (serve settings py api deploymentId s l).2.2

/-- The generation that a request reports as deleted. -/
def reportsDeleted (s : Cluster) (l : Label) : Option ℕ :=
  match (serve settings py api deploymentId s l).1 with
  | .returned result => if result.state = .deleted then some result.observedGeneration else none
  | _ => none

/-! ### The runs behind the requests -/

variable {settings py api deploymentId}

theorem wellFormed_of_desiredBody {allowAbsent : Bool} {body : String} {d : DesiredDeployment}
    (h : desiredBody settings py allowAbsent body = .ok d) : WellFormed py d := by
  obtain ⟨payload, hpayload, h⟩ := bind_eq_ok.1 h
  refine (parsed_of_parse h).wellFormed ?_
  simp only [jsonBody, bind_eq_ok] at hpayload
  obtain ⟨-, -, -, -, hpayload⟩ := hpayload
  split at hpayload
  · rename_i value hvalue
    cases hpayload
    exact readable_of_loads hvalue
  all_goals cases hpayload

theorem addressedBody_eq_ok {body : String} {d : DesiredDeployment}
    (h : addressedBody settings py deploymentId body = .ok d) :
    desiredBody settings py false body = .ok d ∧ d.deploymentId = deploymentId := by
  obtain ⟨d', hd', h⟩ := bind_eq_ok.1 h
  obtain ⟨_, hid, h⟩ := bind_eq_ok.1 h
  cases h
  exact ⟨hd', by simpa using ensure_eq_ok.1 hid⟩

theorem lift_bind_cases {α β : Type} {x : Except ControllerError α} {f : α → Run β} :
    (∃ e, (Prog.lift x : Run α) >>= f = .fail e) ∨
      ∃ a, x = .ok a ∧ (Prog.lift x : Run α) >>= f = f a := by
  cases x with
  | ok a => exact .inr ⟨a, rfl, rfl⟩
  | error e => exact .inl ⟨e, rfl⟩

theorem actionUnlocked_cases (d : DesiredDeployment) (action : ActionName) (requestId : String) :
    (∃ e, actionUnlocked settings py d action requestId = .fail e) ∨
      ∃ restartRequest, actionUnlocked settings py d action requestId =
        deployUnlocked settings py d requestId true restartRequest := by
  unfold actionUnlocked
  refine lift_bind_cases.imp_right ?_
  rintro ⟨-, -, hrun⟩
  exact ⟨_, hrun⟩

/-- The run of a deploy or an action is refused, or it is a run of `_deploy_unlocked`. -/
theorem program_of_deploys {q : Request} (requestId : String) (hq : q.deploys = true)
    (hon : q.isOn settings py deploymentId = true) :
    (∃ e, q.program settings py deploymentId requestId = .fail e) ∨
      ∃ d restartRequest, q.desired settings py = some d ∧ WellFormed py d ∧
        d.deploymentId = deploymentId ∧
        q.program settings py deploymentId requestId =
          deployUnlocked settings py d requestId (!q.creates) restartRequest := by
  cases q with
  | create body =>
    refine lift_bind_cases.imp_right ?_
    rintro ⟨d, hd, hrun⟩
    refine ⟨d, "", ?_, wellFormed_of_desiredBody hd, ?_, hrun⟩
    · rw [Request.desired, hd]
      rfl
    · simpa only [Request.isOn, hd, beq_iff_eq] using hon
  | replace body =>
    refine lift_bind_cases.imp_right ?_
    rintro ⟨d, hd, hrun⟩
    obtain ⟨hd, hid⟩ := addressedBody_eq_ok hd
    refine ⟨d, "", ?_, wellFormed_of_desiredBody hd, hid, hrun⟩
    rw [Request.desired, hd]
    rfl
  | act action body =>
    rcases lift_bind_cases (x := addressedBody settings py deploymentId body)
      (f := fun d => actionUnlocked settings py d action requestId) with h | ⟨d, hd, hrun⟩
    · exact .inl h
    obtain ⟨hd, hid⟩ := addressedBody_eq_ok hd
    rcases actionUnlocked_cases d action requestId with ⟨e, he⟩ | ⟨restartRequest, hrun'⟩
    · exact .inl ⟨e, hrun.trans he⟩
    · refine .inr ⟨d, restartRequest, ?_, wellFormed_of_desiredBody hd, hid, hrun.trans hrun'⟩
      rw [Request.desired, hd]
      rfl
  | delete body => cases hq
  | status => cases hq

theorem deleteBody_of_desiredBody {body : String} {d : DesiredDeployment}
    (h : desiredBody settings py true body = .ok d) :
    deleteBody settings py d.deploymentId body = .ok (some d) := by
  have hbody : body ≠ "" := by
    rintro rfl
    cases h
  simp only [deleteBody, if_neg hbody, h, ok_bind, beq_self_eq_true, ensure_true]
  rfl

/-- The run of a `DELETE` is refused, or it is a run of `_undeploy_unlocked`. -/
theorem program_of_delete (body requestId : String) :
    (∃ e, (Request.delete body).program settings py deploymentId requestId = .fail e) ∨
      ∃ desired, (∀ d, desired = some d → WellFormed py d ∧ d.deploymentId = deploymentId) ∧
        (Request.delete body).program settings py deploymentId requestId =
          undeployUnlocked settings py deploymentId requestId desired := by
  refine lift_bind_cases.imp_right ?_
  rintro ⟨desired, hdesired, hrun⟩
  refine ⟨desired, ?_, hrun⟩
  rintro d rfl
  unfold deleteBody at hdesired
  split_ifs at hdesired
  · cases hdesired
  obtain ⟨d', hd', hdesired⟩ := bind_eq_ok.1 hdesired
  obtain ⟨_, hid, hdesired⟩ := bind_eq_ok.1 hdesired
  cases hdesired
  exact ⟨wellFormed_of_desiredBody hd', by simpa using ensure_eq_ok.1 hid⟩

/-! ### What one step does to the record -/

section Step

variable {ok : Drift → Prop} {Inv : Option Resource → Prop} {s t : Cluster} {l : Label}

/-- Everything that happens around the calls of the request satisfies `ok`. -/
def Label.During (ok : Drift → Prop) (l : Label) : Prop := ∀ w ∈ l.weather, ∀ c ∈ w.drifts, ok c

theorem Label.during_any (l : Label) : l.During fun _ => True := fun _ _ _ _ => trivial

theorem step_eq_some : step settings py api deploymentId s l = some t ↔
    l.request.isOn settings py deploymentId = true ∧
      (serve settings py api deploymentId s l).2.1 = t := by
  simp [step]

theorem serve_fail {e : ControllerError}
    (h : l.request.program settings py deploymentId l.requestId = .fail e) :
    serve settings py api deploymentId s l = (.raised e, (s, [])) := by
  rw [serve, h]
  rfl

theorem step_of_accepts (h : accepts settings py api deploymentId s l = true) :
    ∃ t d, step settings py api deploymentId s l = some t ∧ l.request.desired settings py = some d ∧
      WellFormed py d := by
  simp only [accepts, Bool.and_eq_true] at h
  obtain ⟨⟨hdeploys, hon⟩, happlies⟩ := h
  rcases program_of_deploys l.requestId hdeploys hon with ⟨e, he⟩ | ⟨d, -, hd, hwell, -⟩
  · rw [serve_fail he] at happlies
    cases happlies
  · exact ⟨_, d, step_eq_some.2 ⟨hon, rfl⟩, hd, hwell⟩

/-- **A step that deploys.** Either the request is not accepted and the record keeps `Inv`, or it is
accepted, which implies `F`, and the record has `Post`. -/
theorem deploy_step (Inv : Option Resource → Prop) (F : DesiredDeployment → Prop)
    (Post : DesiredDeployment → Option Resource → Prop) (pre : Cluster → Prop)
    (hl : l.request.deploys = true)
    (hstep : step settings py api deploymentId s l = some t) (hduring : l.During ok)
    (hpre : Prog.Stable (tracked api fun _ => true) ok fun t => pre t.1)
    (hInv : Lasts ok (stateKey settings deploymentId) Inv)
    (hPost : ∀ d, Lasts ok (stateKey settings deploymentId) (Post d))
    (hadmits : ∀ d state, l.request.desired settings py = some d → Inv (some state.record) →
      admitDeploy settings py d state = .ok () → F d)
    (hnone : ∀ d s, l.request.desired settings py = some d → l.request.creates = true → pre s →
      s.content (stateKey settings deploymentId) = none → Inv none → F d)
    (hrecord : ∀ d phase r, WellFormed py d → F d → phase ≠ .deleting → phase ≠ .deleted →
      IsRecord d phase r → Post d (some r))
    (hs : Inv (stored s (stateKey settings deploymentId))) (hp : pre s) :
    (accepts settings py api deploymentId s l = false ∧
        Inv (stored t (stateKey settings deploymentId))) ∨
      ∃ d, accepts settings py api deploymentId s l = true ∧ l.request.desired settings py =
        some d ∧ WellFormed py d ∧ F d ∧ Post d (stored t (stateKey settings deploymentId)) := by
  obtain ⟨hon, rfl⟩ := step_eq_some.1 hstep
  rcases program_of_deploys l.requestId hl hon with
    ⟨e, he⟩ | ⟨d, restartRequest, hd, hwell, rfl, hrun⟩
  · left
    rw [accepts, serve_fail he]
    exact ⟨Bool.and_false _, hs⟩
  -- the run is refused before its first write, or it has written the record
  set settled := Settled (stateKey settings d.deploymentId) Inv (Post d) (F d)
  have htriple : Prog.Triple (tracked api fun _ => true) ok
      (fun t => Holds (stateKey settings d.deploymentId) Inv false t ∧ pre t.1)
      (deployUnlocked settings py d l.requestId (!l.request.creates) restartRequest)
      (fun _ => settled) (fun _ => settled) settled :=
    deploy_triple hpre hInv (hPost d) (fun state => hadmits d state hd)
      (fun s hp hc hi hcreates => hnone d s hd (by simpa using hcreates) hp hc hi)
      fun hF phase r => hrecord d phase r hwell hF
  have hsettled : settled (serve settings py api d.deploymentId s l).2 := by
    rw [serve, hrun]
    exact htriple.run_always ⟨⟨hs, rfl⟩, hp⟩ hduring
  rcases hsettled with hbefore | ⟨hF, hafter⟩
  · exact .inl ⟨by rw [accepts, hbefore.2, Bool.and_false], hbefore.1⟩
  · exact .inr ⟨d, by rw [accepts, hafter.2, hl, hon]; rfl, hd, hwell, hF, hafter.1⟩

theorem report_of_triple {k : Key}
    (h : Prog.Triple (tracked api fun _ => true) ok (Holds k Inv false)
      (l.request.program settings py deploymentId l.requestId) (KeptReport k Inv)
      (fun _ => Kept k Inv) (Kept k Inv)) (hs : Inv (stored s k)) (hduring : l.During ok) :
    Inv (stored (serve settings py api deploymentId s l).2.1 k) ∧
      ((reportsDeleted settings py api deploymentId s l).isSome →
        Gone (stored (serve settings py api deploymentId s l).2.1 k)) := by
  have hend : Prog.Ends (KeptReport k Inv) (fun _ => Kept k Inv) (Kept k Inv)
      (serve settings py api deploymentId s l).1 (serve settings py api deploymentId s l).2 :=
    h.run ⟨hs, rfl⟩ hduring
  rw [reportsDeleted]
  generalize (serve settings py api deploymentId s l).1 = o at hend
  cases o with
  | returned result =>
    refine ⟨hend.1, fun hreport => hend.2 ?_⟩
    by_contra hstate
    simp [hstate] at hreport
  | raised e => exact ⟨hend, nofun⟩
  | lost => exact ⟨hend, nofun⟩

/-- **A step that does not deploy.** The record keeps `Inv`, if the records that a deletion writes
have it; and if the state `deleted` is reported, then the record is gone. -/
theorem other_step (Inv : Option Resource → Prop) (hl : l.request.deploys = false)
    (hstep : step settings py api deploymentId s l = some t) (hduring : l.During ok)
    (hInv : Lasts ok (stateKey settings deploymentId) Inv)
    (hadmits : ∀ desired state d, (∀ d, desired = some d → WellFormed py d) →
      Inv (some state.record) → admitUndeploy settings py desired state = .ok d →
      ∀ r, IsRecord d .deleting r → Inv (some r))
    (hnone : ∀ d, WellFormed py d → Inv none → ∀ r, IsRecord d .deleting r → Inv (some r))
    (hs : Inv (stored s (stateKey settings deploymentId))) :
    Inv (stored t (stateKey settings deploymentId)) ∧
      ((reportsDeleted settings py api deploymentId s l).isSome →
        Gone (stored t (stateKey settings deploymentId))) := by
  obtain ⟨-, rfl⟩ := step_eq_some.1 hstep
  obtain ⟨q, requestId, weather⟩ := l
  cases q with
  | create | replace | act => cases hl
  | delete body =>
    rcases program_of_delete body requestId with ⟨e, he⟩ | ⟨desired, hdesired, hrun⟩
    · rw [reportsDeleted, serve_fail he]
      exact ⟨hs, nofun⟩
    · refine report_of_triple ?_ hs hduring
      simp only [hrun]
      exact undeploy_triple hInv (fun state d => hadmits desired state d fun d hd =>
        (hdesired d hd).1)
        fun d hd => hnone d (hdesired d hd).1
  | status =>
    refine report_of_triple ?_ hs hduring
    exact (observe_triple hInv).mono (fun _ h => h) (fun a t ht => ⟨ht.1.1, ht.2⟩)
      (fun e t ht => ht.1.1) fun t ht => ht.1

/-- **One step.** A property of the record is kept by every step, if the records of the admitted
deployments have it; `F` holds of every accepted deployment. -/
theorem record_step {F : DesiredDeployment → Prop} (pre : Cluster → Prop)
    (hstep : step settings py api deploymentId s l = some t) (hduring : l.During ok)
    (hpre : Prog.Stable (tracked api fun _ => true) ok fun t => pre t.1)
    (hInv : Lasts ok (stateKey settings deploymentId) Inv)
    (hdeploy : ∀ d state, l.request.desired settings py = some d → Inv (some state.record) →
      admitDeploy settings py d state = .ok () → F d)
    (hcreate : ∀ d s, l.request.desired settings py = some d → l.request.creates = true → pre s →
      s.content (stateKey settings deploymentId) = none → Inv none → F d)
    (hlive : ∀ d phase r, WellFormed py d → F d → phase ≠ .deleting → phase ≠ .deleted →
      IsRecord d phase r → Inv (some r))
    (hundeploy : ∀ desired state d, (∀ d, desired = some d → WellFormed py d) →
      Inv (some state.record) → admitUndeploy settings py desired state = .ok d →
      ∀ r, IsRecord d .deleting r → Inv (some r))
    (hdelete : ∀ d, WellFormed py d → Inv none → ∀ r, IsRecord d .deleting r → Inv (some r))
    (hs : Inv (stored s (stateKey settings deploymentId))) (hp : pre s) :
    Inv (stored t (stateKey settings deploymentId)) ∧
      (accepts settings py api deploymentId s l = true →
        ∀ d, l.request.desired settings py = some d → F d) := by
  cases hl : l.request.deploys with
  | true =>
    rcases deploy_step Inv F (fun _ => Inv) pre hl hstep hduring hpre hInv (fun _ => hInv) hdeploy
      hcreate hlive hs hp with
      ⟨hno, hkept⟩ | ⟨d, -, hd, -, hF, hkept⟩
    · exact ⟨hkept, fun hyes => by rw [hno] at hyes; cases hyes⟩
    · refine ⟨hkept, fun _ d' hd' => ?_⟩
      rw [hd] at hd'
      cases hd'
      exact hF
  | false =>
    refine ⟨(other_step Inv hl hstep hduring hInv hundeploy hdelete hs).1, fun hyes => ?_⟩
    rw [accepts, hl] at hyes
    cases hyes

end Step

/-! ### The payload of the sample as a body -/

/-- The text of a payload. -/
def bodyOf (payload : Json) : String := String.ofList payload.dumps

theorem utf8ByteSize_ofList_le (cs : List Char) :
    (String.ofList cs).utf8ByteSize ≤ 4 * cs.length := by
  rw [String.utf8ByteSize_ofList]
  induction cs with
  | nil => exact Nat.zero_le _
  | cons c cs ih =>
    have := c.utf8Size_le_four
    rw [String.utf8Len_cons, List.length_cons]
    omega

theorem desiredBody_of_parse {allowAbsent : Bool} {payload : Json} {d : DesiredDeployment}
    (hreadable : readable py payload = true) (hlength : payload.dumps.length ≤ 65536)
    (hparse : parseDesiredDeployment settings allowAbsent payload = .ok d) :
    desiredBody settings py allowAbsent (bodyOf payload) = .ok d := by
  have hsize : decide ((bodyOf payload).utf8ByteSize ≤ maxRequestBytes) = true := by
    have := utf8ByteSize_ofList_le payload.dumps
    rw [decide_eq_true_eq, bodyOf, maxRequestBytes]
    omega
  have hloads : loads (.unique py) (bodyOf payload).toList.length (bodyOf payload).toList =
      .ok payload := by
    rw [bodyOf, String.toList_ofList]
    exact loads_dumps hreadable (nesting_le_length _)
  have hne : (bodyOf payload != "") = true := by
    rw [bne_iff_ne]
    intro hempty
    rw [hempty] at hloads
    cases hloads
  refine bind_eq_ok.2 ⟨payload, ?_, hparse⟩
  simp only [jsonBody, hsize, hne, ensure_true, ok_bind, hloads]
  rfl

theorem length_quote_le (text : String) : (quote text).length ≤ 6 * text.length + 2 := by
  have hchar : ∀ c, (escapeChar c).length ≤ 6 := by
    intro c
    unfold escapeChar
    split_ifs <;> simp
  have hchars : ∀ cs : List Char, (cs.flatMap escapeChar).length ≤ 6 * cs.length := by
    intro cs
    induction cs with
    | nil => exact Nat.zero_le _
    | cons c cs ih =>
      have := hchar c
      rw [List.flatMap_cons, List.length_append, List.length_cons]
      omega
  have := hchars text.toList
  rw [String.length_toList] at this
  simp only [quote, List.length_cons, List.length_append, List.length_nil]
  omega

section Sample

variable {value : String} {generation : ℕ} {state : DesiredState} {allowAbsent : Bool}

/-- Digests and greetings are the only parts of the payload whose length is not known. -/
theorem length_sample (hlength : value.length ≤ 2048) (hgeneration : generation ≤ 3) :
    (samplePayload generation state "web" value).dumps.length ≤ 65536 := by
  have hempty : (payloadWith "" "" 0 .running "web" "").dumps.length ≤ 2000 := by decide +kernel
  have hparts : ∀ p q, (payloadWith p q generation state "web" value).dumps.length ≤
      (payloadWith "" "" 0 .running "web" "").dumps.length + (quote p).length + (quote q).length +
        (quote state.value).length + (dumps (.int generation)).length + (quote value).length := by
    intro p q
    simp only [payloadWith, manifestWith, dumps, dumpsMembers, dumpsMoreMembers, dumpsItems,
      dumpsMoreItems, List.length_append, List.length_cons]
    omega
  have hstate : (quote state.value).length ≤ 9 := by cases state <;> decide +kernel
  have hnumber : (dumps (.int generation)).length ≤ 1 := by
    rcases (by omega : generation = 0 ∨ generation = 1 ∨ generation = 2 ∨ generation = 3) with
      rfl | rfl | rfl | rfl <;> decide +kernel
  have hdigest : ∀ v, (quote (sha256Json v)).length ≤ 386 := by
    intro v
    have hlen : (sha256Json v).length = 64 := by
      rw [← String.length_toList]
      show (String.ofList (Sha256.hexState _)).toList.length = 64
      rw [String.toList_ofList, Sha256.length_hexState]
    have := length_quote_le (sha256Json v)
    omega
  have := hparts (sha256Json sampleSpec) (sha256Json (sampleManifest "web"))
  have := hdigest sampleSpec
  have := hdigest (sampleManifest "web")
  have := length_quote_le value
  rw [samplePayload]
  omega

/-- **The body of a sample payload is accepted.** -/
theorem desiredBody_sample (h : IsSample "web" value) (hpositive : 1 ≤ generation)
    (hgeneration : generation ≤ 3) (hstate : state = .absent → allowAbsent = true) :
    desiredBody sampleSettings sampleReader allowAbsent
      (bodyOf (samplePayload generation state "web" value)) =
      .ok (sampleDesired generation state "web" value) :=
  desiredBody_of_parse (readable_sample hgeneration) (length_sample h.length_le hgeneration)
    (parse_sample h hpositive hstate)

end Sample

end ArchiDeal.Reconciler
