import ArchiDeal.Hosting.Queue

/-!
# The rows of one deployment

What a step does to one row of the runtime tables, for the properties of single deployments.

* `Turned`, `turned_step`: the row of a deployment is kept, written by a worker that holds the lease
  of one of its operations, or requested anew;
* `deployments_step`: the rule for what holds of every deployment;
* `operation_new`: a new operation comes from an accepted request;
* `keeps_step`: releases are never changed.
-/

namespace ArchiDeal.Hosting

open Transition

variable {settings : Settings} {w w' : World} {l : Label} {i k : Uuid} {o o' : RuntimeOperation}
  {d d' : RuntimeDeployment}

/-- A transaction on an existing operation is a claim, or comes from the session that holds the
lease. -/
theorem Did.effect (hs : Sound w) (found : w.db.operations.lookup i = some o)
    (h : Did w i o d l o' d') : ∃ token phase, Effect w.clock token o d l phase o' d' ∧
      (phase = .claimed ∨ o.leaseToken = some token ∧
        w.sessions.lookup token = some ⟨i, phase⟩) := by
  cases h with
  | @claim _ token => exact ⟨token, .claimed, .keep nofun, .inl rfl⟩
  | @worked _ token phase _ _ session held work =>
    obtain ⟨p, hp, hf⟩ := hs.attached token i phase session
    cases hp.symm.trans found
    exact ⟨token, phase, work.effect hf, .inr ⟨held, session⟩⟩

/-! ### Deployments -/

/-- What the step `l` from `w` to `w'` does to the row `d` of deployment `k`. -/
inductive Turned (settings : Settings) (w w' : World) (k : Uuid) :
    Label → RuntimeDeployment → RuntimeDeployment → Prop
  | keep {l : Label} {d : RuntimeDeployment} : Turned settings w w' k l d d
  /-- A transaction on the active operation `i` of the deployment. -/
  | work {l : Label} {i token : Uuid} {o o' : RuntimeOperation} {d d' : RuntimeDeployment}
      {phase : Phase} (found : w.db.operations.lookup i = some o) (owner : o.deployment = k)
      (active : o.isActive = true) (saved : w'.db.operations.lookup i = some o')
      (order : o'.order = o.order)
      (session : phase = .claimed ∨ o.leaseToken = some token ∧
        w.sessions.lookup token = some ⟨i, phase⟩)
      (effect : Effect w.clock token o d l phase o' d') : Turned settings w w' k l d d'
  /-- The transaction of an accepted request. -/
  | request {r : ℕ} {k₀ id : Uuid} {req : Request} {hash : String} {job : Job}
    {type : OperationType}
      {payload : Payload} {d d' : RuntimeDeployment}
      (flight : w.flights.lookup r = some ⟨req, .entered job hash⟩) (target : job.target k₀ = k)
      (current : revisionPrecondition req d.revision "deployment" = .ok ())
      (idle : w.db.hasOperation k RuntimeOperation.mutates = false)
      (requested : Requested job d d' type)
      (queued : w'.db.operations.lookup id =
        some (newOperation req k d' type hash payload w.clock)) :
      Turned settings w w' k (.transact r k₀ id) d d'

/-- **A deployment keeps its row**, and a step turns it in one of the ways of `Turned`. -/
theorem turned_step (hs : Sound w) (h : step settings w l = some w')
    (hd : w.db.deployments.lookup k = some d) :
    ∃ d', w'.db.deployments.lookup k = some d' ∧ Turned settings w w' k l d d' := by
  cases step_tx hs.owned h with
  | quiet _ deployments => exact ⟨d, deployments ▸ hd, .keep⟩
  | @work _ i o o' d₀ d' _ found owner did saves =>
    rw [saves.deployments]
    have horder := did.order
    have hk := deployment_of_order horder
    by_cases hkey : k = o.deployment
    · subst hkey
      cases owner.symm.trans hd
      obtain ⟨token, phase, effect, hsession⟩ := did.effect hs found
      refine ⟨d', if_pos hk.symm, .work found rfl (did.isActive hs found) ?_ horder hsession effect⟩
      rw [saves.operations, if_pos rfl]
    · exact ⟨d, by rw [if_neg (hk ▸ hkey), hd], .keep⟩
  | @ask r k₀ id req job hash o d₀ db₁ _ flight newKey newId asked _ saves =>
    rw [saves.deployments]
    have hid := (saves.operations id).trans (if_pos rfl)
    cases asked with
    | create =>
      refine ⟨d, ?_, .keep⟩
      rw [if_neg, hd]
      rintro rfl
      cases newKey.symm.trans hd
    | request found current idle requested =>
      by_cases hkey : k = job.target k₀
      · subst hkey
        cases found.symm.trans hd
        exact ⟨d₀, if_pos rfl, .request flight rfl current idle requested hid⟩
      · exact ⟨d, (if_neg hkey).trans hd, .keep⟩
    | @logs k' _ _ _ found =>
      by_cases hkey : k = k'
      · subst hkey
        cases found.symm.trans hd
        exact ⟨d, if_pos rfl, .keep⟩
      · exact ⟨d, (if_neg hkey).trans hd, .keep⟩

theorem deployment_new (hs : Sound w) (h : step settings w l = some w')
    (hd : w.db.deployments.lookup k = none) (hd' : w'.db.deployments.lookup k = some d') :
    ∃ id req hash body version env o db₁,
      Asked settings w.db req hash k w.clock (.create body version env) o d' db₁ ∧
        Writes db₁ id o d' w'.db := by
  cases step_tx hs.owned h with
  | quiet _ deployments =>
    rw [deployments, hd] at hd'
    cases hd'
  | work _ owner did saves =>
    rw [saves.deployments] at hd'
    split_ifs at hd' with hkey
    · rw [hkey, deployment_of_order did.order] at hd
      cases hd.symm.trans owner
    · cases hd.symm.trans hd'
  | ask _ _ _ asked _ saves writes =>
    rw [saves.deployments] at hd'
    split_ifs at hd' with hkey
    · cases hd'
      subst hkey
      cases asked with
      | create checks released values built nodup stored =>
        exact ⟨_, _, _, _, _, _, _, _, .create checks released values built nodup stored, writes⟩
      | request found => cases hd.symm.trans found
      | logs found => cases hd.symm.trans found
    · cases hd.symm.trans hd'

/-- **The rule for deployments.** What holds of every deployment before a step holds after it, if
it survives every turn and holds of every deployment that is created. -/
theorem deployments_step {P Q : Uuid → RuntimeDeployment → Prop} (hs : Sound w)
    (h : step settings w l = some w') (hP : ∀ k d, w.db.deployments.lookup k = some d → P k d)
    (hturn : ∀ k d d', w.db.deployments.lookup k = some d → Turned settings w w' k l d d' →
      P k d → Q k d')
    (hnew : ∀ k id req hash body version env o d' db₁, w.db.deployments.lookup k = none →
      Asked settings w.db req hash k w.clock (.create body version env) o d' db₁ →
        Writes db₁ id o d' w'.db → Q k d') :
    ∀ k d', w'.db.deployments.lookup k = some d' → Q k d' := by
  intro k d' hd'
  cases hd : w.db.deployments.lookup k with
  | none =>
    obtain ⟨id, req, hash, body, version, env, o, db₁, asked, writes⟩ := deployment_new hs h hd hd'
    exact hnew k id req hash body version env o d' db₁ hd asked writes
  | some d =>
    obtain ⟨d'', hd'', turned⟩ := turned_step hs h hd
    cases hd''.symm.trans hd'
    exact hturn k d d' hd turned (hP k d hd)

/-! ### Operations and releases -/

theorem operation_new (hs : Sound w) (h : step settings w l = some w')
    (ho : w.db.operations.lookup i = none) (ho' : w'.db.operations.lookup i = some o') :
    ∃ req hash k job d db₁, Asked settings w.db req hash k w.clock job o' d db₁ ∧
      Writes db₁ i o' d w'.db := by
  cases step_tx hs.owned h with
  | quiet operations =>
    rw [operations, ho] at ho'
    cases ho'
  | work found _ _ saves =>
    rw [saves.operations] at ho'
    split_ifs at ho' with hi
    · subst hi
      cases ho.symm.trans found
    · cases ho.symm.trans ho'
  | ask _ _ _ asked _ saves writes =>
    rw [saves.operations] at ho'
    split_ifs at ho' with hi
    · subst hi
      cases ho'
      exact ⟨_, _, _, _, _, _, asked, writes⟩
    · cases ho.symm.trans ho'

theorem Change.keeps (h : Change settings w l w') : Keeps w.db w'.db := by
  cases h with
  | edit edited => exact (applyEdit_quiet edited).2.2
  | @session _ _ s _ _ _ moved =>
    obtain ⟨i, phase⟩ := s
    cases moved with
    | write _ _ _ _ writes => exact .of_eq writes.releases writes.versions
    | _ => exact .of_eq rfl rfl
  | refuse _ returned => exact (called_of_returned returned).released.toKeeps
  | accept _ _ _ asked _ writes =>
    exact asked.called.released.toKeeps.trans (.of_eq writes.releases writes.versions)
  | _ => exact .of_eq rfl rfl

/-- Releases are never changed, and neither are the numbers of versions. -/
theorem keeps_step (hs : Sound w) (h : step settings w l = some w') : Keeps w.db w'.db :=
  (step_change hs.owned h).keeps

end ArchiDeal.Hosting
