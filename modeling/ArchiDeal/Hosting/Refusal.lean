import ArchiDeal.Hosting.Accept

/-!
# Refused requests

* `Response.Refuses`: the response is an error; every exception before the transaction and every
  refusal in it is answered with one.
-/

namespace ArchiDeal.Hosting

variable {settings : Settings} {db db' : Database} {req : Request} {hash : String} {k id : Uuid}
  {now : Time}

/-! ### The statuses of refusals -/

abbrev Response.Refuses (r : Response) : Prop := 400 ≤ r.status

/-- The refusal is answered with an error. -/
abbrev Refusal.Refuses (e : Refusal) : Prop := e.response.Refuses

theorem refuses_invalid (errors : FieldErrors) : (Response.invalid errors).Refuses := le_rfl

theorem refuses_notFound : Response.notFound.Refuses := by decide

theorem refuses_serverError : Response.serverError.Refuses := by decide

theorem raises_queryset (q : Query) : Raises Response.Refuses (queryset q) := by
  refine .bind ?_ fun _ => .bind ?_ fun _ => .bind ?_ fun _ => raises_ok _
  · unfold applicationFilter
    repeat' split
    all_goals first
      | exact raises_ok _ | exact raises_error refuses_serverError
      | exact raises_error (refuses_invalid _)
  · unfold observedStateFilter
    repeat' split
    all_goals first | exact raises_ok _ | exact raises_error (refuses_invalid _)
  · unfold activeFilter
    repeat' split
    all_goals first | exact raises_ok _ | exact raises_error (refuses_invalid _)

theorem raises_getObject (q : Query) (pk : Option Uuid) :
    Raises Response.Refuses (getObject db q pk) := by
  refine .bind (raises_queryset q) fun filters => ?_
  repeat' split
  all_goals first | exact raises_ok _ | exact raises_error refuses_notFound

theorem raises_fresh (q : Query) : Raises Response.Refuses (fresh db q k) := by
  refine .bind (raises_queryset q) fun filters => ?_
  repeat' split
  all_goals first | exact raises_ok _ | exact raises_error refuses_serverError

theorem raises_parsed {α : Type} (body : Except FieldErrors α) :
    Raises Response.Refuses (parsed body) := by
  cases body
  · exact raises_error (refuses_invalid _)
  · exact raises_ok _

theorem raises_relatedRows (body : CreateBody) : Raises Response.Refuses (relatedRows db body) := by
  unfold relatedRows
  simp only
  split
  · exact raises_ok _
  · exact raises_error (refuses_invalid _)

theorem raises_validateCreate (body : CreateBody) :
    Raises Response.Refuses (validateCreate db body) :=
  .bind (raises_relatedRows body) fun _ => .bind (raises_ensure _ (refuses_invalid _)) fun _ =>
    .bind (raises_ensure _ (refuses_invalid _)) fun _ =>
      .bind (raises_ensure _ (refuses_invalid _)) fun _ => raises_ok _

theorem raises_validateUpdate (d : RuntimeDeployment) (body : UpdateBody) :
    Raises Response.Refuses (validateUpdate db d body) := by
  unfold validateUpdate
  split
  · exact .bind (raises_ensure _ (refuses_invalid _)) fun _ =>
      .bind (raises_ensure _ (refuses_invalid _)) fun _ => raises_ok _
  · exact raises_error refuses_serverError

theorem raises_validateAction (body : ActionBody) :
    Raises Response.Refuses (validateAction body) := by
  unfold validateAction
  split_ifs <;> exact raises_ensure _ (refuses_invalid _)

/-- What is refused before the request hash is refused with an error. -/
theorem raises_draft : Raises Response.Refuses (draft db req) := by
  unfold draft
  split
  · exact .bind (raises_parsed _) fun _ => .bind (raises_validateCreate _) fun _ => raises_ok _
  · exact .bind (raises_getObject _ _) fun _ => .bind (raises_parsed _) fun _ =>
      .bind (raises_validateUpdate _ _) fun _ => raises_ok _
  · exact .bind (raises_getObject _ _) fun _ => raises_ok _
  · exact .bind (raises_getObject _ _) fun _ => .bind (raises_parsed _) fun _ =>
      .bind (raises_validateAction _) fun _ => raises_ok _
  · exact .bind (raises_getObject _ _) fun _ => .bind (raises_parsed _) fun _ => raises_ok _

theorem raises_idempotencyReplay : Raises Response.Refuses (idempotencyReplay db req hash) := by
  unfold idempotencyReplay
  split
  · exact raises_error (by decide)
  · refine .bind (raises_ensure _ (by decide)) fun _ => ?_
    split
    · exact raises_ok _
    · exact .bind (raises_ensure _ (by decide)) fun _ => raises_ok _

theorem raises_revisionPrecondition (revision : ℕ) (resource : String) :
    Raises Refusal.Refuses (revisionPrecondition req revision resource) := by
  unfold revisionPrecondition
  split
  · exact raises_error (by simp [Refusal.response, Response.status])
  · split
    · exact raises_error (by decide)
    · split
      · exact raises_error (by decide)
      · exact raises_ensure _ (by simp [Refusal.response, Response.status])

/-! ### Refusals in the transaction -/

theorem raises_lockedDeployment : Raises Refusal.Refuses (lockedDeployment db k) := by
  unfold lockedDeployment
  repeat' split
  all_goals first | exact raises_ok _ | exact raises_error refuses_serverError

theorem raises_environmentUnavailable (env : RuntimeEnvironment) :
    Raises Refusal.Refuses (environmentUnavailable env) :=
  raises_ensure _ (by decide)

theorem raises_busyResponse : Raises Refusal.Refuses (busyResponse db k) :=
  raises_ensure _ (by decide)

theorem raises_createOperation (o : RuntimeOperation) :
    Raises Refusal.Refuses (createOperation db id o) :=
  .bind (raises_ensure _ (by decide)) fun _ => raises_ok _

theorem raises_invalidValue {α : Type} (x : Except String α) :
    Raises Refusal.Refuses (invalidValue x) := by
  cases x
  · exact raises_error (refuses_invalid _)
  · exact raises_ok _

theorem raises_updateTx (fields : UpdateFields) :
    Raises Refusal.Refuses (updateTx settings db req hash k fields id now) := by
  refine .bind raises_lockedDeployment fun _ => .bind (raises_revisionPrecondition _ _) fun _ =>
    .bind (raises_environmentUnavailable _) fun _ => .bind raises_busyResponse fun _ =>
    .bind (raises_ensure _ (by decide)) fun _ => .bind (raises_ensure _ (by decide)) fun _ =>
    .bind (raises_ensure _ (by decide)) fun _ => ?_
  split
  · exact raises_error refuses_serverError
  · exact raises_createOperation _

theorem raises_destroyTx : Raises Refusal.Refuses (destroyTx db req hash k id now) :=
  .bind raises_lockedDeployment fun _ => .bind (raises_revisionPrecondition _ _) fun _ =>
    .bind raises_busyResponse fun _ => .bind (raises_ensure _ (by decide)) fun _ =>
    raises_createOperation _

theorem raises_applyAction (d : RuntimeDeployment) (env : RuntimeEnvironment) (body : ActionBody) :
    Raises Refusal.Refuses (applyAction db d env body) := by
  unfold applyAction
  split
  · exact raises_ok _
  · exact raises_ok _
  · exact raises_ok _
  · split
    · exact .bind (raises_ensure _ (by decide)) fun _ => .bind (raises_invalidValue _) fun _ =>
        raises_ok _
    · exact raises_error refuses_serverError

theorem raises_actionTx (body : ActionBody) :
    Raises Refusal.Refuses (actionTx db req hash k body id now) :=
  .bind raises_lockedDeployment fun _ => .bind (raises_revisionPrecondition _ _) fun _ =>
    .bind (raises_environmentUnavailable _) fun _ => .bind raises_busyResponse fun _ =>
    .bind (raises_ensure _ (by simp [Refusal.response, Response.status])) fun _ =>
    .bind (.bind (raises_ensure _ (by decide)) fun _ =>
      raises_ensure _ (by simp [Refusal.response, Response.status])) fun _ =>
    .bind (raises_ensure _ (by decide)) fun _ => .bind (raises_applyAction _ _ _) fun _ =>
    raises_createOperation _

theorem raises_checkLogLimits (env : RuntimeEnvironment) (tailLines : ℕ) :
    Raises Refusal.Refuses (checkLogLimits env tailLines) := by
  unfold checkLogLimits
  generalize (if env.capabilities.isObj = true then _ else _ : Json) = limits
  simp only
  split
  · exact raises_error (by decide)
  · split
    · exact .bind (raises_ensure _ (by decide)) fun _ => raises_ensure _ (by decide)
    · exact raises_error (by decide)

theorem raises_logsTx (body : LogBody) : Raises Refusal.Refuses
    (logsTx db req hash k body id now) :=
  .bind raises_lockedDeployment fun _ => .bind (raises_revisionPrecondition _ _) fun _ =>
    .bind (raises_environmentUnavailable _) fun _ => .bind (raises_ensure _ (by decide)) fun _ =>
    .bind (raises_ensure _ (by decide)) fun _ => .bind (raises_ensure _ (by decide)) fun _ =>
    .bind (raises_ensure _ (by decide)) fun _ => .bind (raises_checkLogLimits _ _) fun _ =>
    raises_createOperation _

theorem raises_createChecks (body : CreateBody) :
    Raises Refusal.Refuses (createChecks db req body) := by
  unfold createChecks
  split
  · exact raises_error refuses_serverError
  · exact .bind (raises_revisionPrecondition _ _) fun _ =>
      .bind (raises_ensure _ (by decide)) fun _ =>
      raises_ok _

theorem raises_insertDeployment (body : CreateBody) (env : RuntimeEnvironment)
    (release : ℕ × RuntimeRelease) :
    Raises Refusal.Refuses (insertDeployment settings db req hash body env release k id now) := by
  refine .bind (.bind (raises_invalidValue _) fun _ => .bind (raises_invalidValue _) fun _ =>
    .bind (raises_invalidValue _) fun _ => raises_ok _) ?_
  rintro ⟨scaling, configuration, secretRefs⟩
  simp only
  split
  · exact raises_error refuses_serverError
  · exact .bind (raises_ensure _ (by decide)) fun _ =>
      .bind (raises_ensure _ refuses_serverError) fun _ => raises_createOperation _

theorem Outcome.refuses_of {x : Except Refusal Database} (hx : Raises Refusal.Refuses x)
    {response : Response} (h : Outcome.of db x = .raised response ∨
      ∃ db', Outcome.of db x = .returned db' response) : response.Refuses := by
  rcases x with (r | r) | db₁
  · rcases h with h | ⟨_, h⟩ <;> cases h
    exact hx _ rfl
  · rcases h with h | ⟨_, h⟩ <;> cases h
    exact hx _ rfl
  · rcases h with h | ⟨_, h⟩ <;> cases h

/-- **Refusals.** A transaction that does not accept its request answers it with an error. -/
theorem refuses_of_transact {job : Job} {response : Response}
    (h : transact settings db req hash k id now job = .raised response ∨
      ∃ db', transact settings db req hash k id now job = .returned db' response) :
    response.Refuses := by
  cases job with
  | create body version env =>
    simp only [transact, createTx] at h
    split at h
    · rename_i e hchecks
      exact Outcome.refuses_of (raises_error (raises_createChecks body e hchecks)) h
    split at h
    · rcases h with h | ⟨_, h⟩ <;> cases h
      simp [Response.status]
    · rcases h with h | ⟨_, h⟩ <;> cases h
      decide
    · rcases h with h | ⟨_, h⟩ <;> cases h
      decide
    · exact Outcome.refuses_of (raises_insertDeployment _ _ _) h
  | update k' fields => exact Outcome.refuses_of (raises_updateTx fields) h
  | destroy k' => exact Outcome.refuses_of raises_destroyTx h
  | action k' body => exact Outcome.refuses_of (raises_actionTx body) h
  | logs k' body => exact Outcome.refuses_of (raises_logsTx body) h

end ArchiDeal.Hosting
