import ArchiDeal.Hosting.Fencing
import ArchiDeal.Hosting.Deployments

/-!
# Desired states

An operation carries the desired state of its deployment in its payload, and the worker compares the
reports of the controller with that copy. `aligned_of_reach` says that the copy is right as long as
the operation is active, that an undeploy wants the removal, and that a deployment whose removal is
requested is in one of four states.
-/

namespace ArchiDeal.Hosting

open Transition

variable {settings : Settings} {w w' : World} {l : Label} {i k token : Uuid}
  {o o' : RuntimeOperation} {d d' : RuntimeDeployment} {db : Database} {clock : Time}
  {phase : Phase}

/-- The states of a deployment whose removal is requested. -/
def removalStates : List ObservedState := [.deleting, .deleted, .failed, .unknown]

/-- From the states of a removal only a start and a stop are allowed, after a failure. -/
theorem allowed_of_removing {state : ObservedState} {action : ActionName}
    (hremoving : state ∈ removalStates) (hallowed : state ∈ allowedStates action) :
    (action = .start ∨ action = .stop) ∧ (state = .failed ∨ state = .unknown) := by
  cases action <;> cases state <;> revert hremoving hallowed <;> decide

/-- The operations say what their deployments want. -/
structure Database.Aligned (db : Database) : Prop where
  wanted : ∀ i o d, db.operations.lookup i = some o → o.mutates = true →
    db.deployments.lookup o.deployment = some d → o.payload.desiredState = some d.desiredState
  undeploy : ∀ i o, db.operations.lookup i = some o → o.operationType = .undeploy →
    o.payload.desiredState = some .absent
  removing : ∀ k d, db.deployments.lookup k = some d → d.desiredState = .absent →
    d.observedState ∈ removalStates

theorem Effect.desiredState (h : Effect clock token o d l phase o' d') :
    d'.desiredState = d.desiredState := by
  cases h with
  | record _ _ _ _ recorded => cases recorded <;> rfl
  | keep => rfl
  | fail => rfl

/-- The operation of a new request wants what the row of its deployment wants. -/
theorem Asked.desiredState {req : Request} {hash : String} {now : Time} {job : Job}
    {db₁ : Database} (h : Asked settings db req hash k now job o d db₁) (hlog : o.isLog = false) :
    o.payload.desiredState = some d.desiredState := by
  cases h with
  | create => rfl
  | request _ _ _ requested => simp [newOperation, requested.type_ne]
  | logs => cases hlog

/-- An operation that is active after a step is new, or was active before it. -/
theorem active_step (hs : Sound w) (h : step settings w l = some w')
    (ho : w.db.operations.lookup i = some o) (ho' : w'.db.operations.lookup i = some o')
    (hactive : o'.isActive = true) : o.isActive = true ∧ o'.order = o.order := by
  obtain ⟨o'', ho'', horder⟩ := order_step hs.owned h ho
  cases ho''.symm.trans ho'
  refine ⟨?_, horder⟩
  by_contra hend
  rw [Bool.not_eq_true] at hend
  cases (lookup_of_ended_step hs ho hend h).symm.trans ho'
  cases hend.symm.trans hactive

theorem wanted_step (hs : Sound w) (ha : w.db.Aligned) (h : step settings w l = some w')
    (ho' : w'.db.operations.lookup i = some o') (hmut : o'.mutates = true)
    (hd' : w'.db.deployments.lookup o'.deployment = some d') :
    o'.payload.desiredState = some d'.desiredState := by
  obtain ⟨hactive, hlog⟩ := RuntimeOperation.mutates_eq_true.1 hmut
  cases ho : w.db.operations.lookup i with
  | none =>
    obtain ⟨req, hash, k, job, d, db₁, asked, writes⟩ := operation_new hs h ho ho'
    rw [writes.deployments, if_pos rfl] at hd'
    cases hd'
    exact asked.desiredState hlog
  | some o =>
    obtain ⟨hactive, horder⟩ := active_step hs h ho ho' hactive
    have hmut : o.mutates = true :=
      RuntimeOperation.mutates_eq_true.2 ⟨hactive, isLog_of_order horder ▸ hlog⟩
    obtain ⟨d, hd⟩ := hs.owned i o ho
    obtain ⟨d'', hd'', turned⟩ := turned_step hs h hd
    rw [deployment_of_order horder] at hd'
    cases hd''.symm.trans hd'
    rw [payload_of_order horder, ha.wanted i o d ho hmut hd]
    cases turned with
    | keep => rfl
    | work _ _ _ _ _ _ effect => rw [effect.desiredState]
    | request _ _ _ idle =>
      rw [Database.hasOperation_eq_false.1 idle i o ho rfl] at hmut
      cases hmut

theorem undeploy_step (hs : Sound w) (ha : w.db.Aligned) (h : step settings w l = some w')
    (ho' : w'.db.operations.lookup i = some o') (htype : o'.operationType = .undeploy) :
    o'.payload.desiredState = some .absent := by
  cases ho : w.db.operations.lookup i with
  | none =>
    obtain ⟨req, hash, k, job, d, db₁, asked, -⟩ := operation_new hs h ho ho'
    cases asked with
    | create => cases htype
    | request _ _ _ requested =>
      have hremoves := requested.undeploy.1 htype
      have hdesired := requested.desired
      cases job <;> cases hremoves
      simp only [newOperation, requested.type_ne, if_false, hdesired, Job.desired]
    | logs => cases htype
  | some o =>
    obtain ⟨o'', ho'', horder⟩ := order_step hs.owned h ho
    cases ho''.symm.trans ho'
    rw [payload_of_order horder]
    exact ha.undeploy i o ho (operationType_of_order horder ▸ htype)

/-- A report that ends the removal of a deployment, or anything else a worker writes, leaves it in
one of the states of a removal. -/
theorem Effect.removing (h : Effect clock token o d l phase o' d') (hf : phase.fits o)
    (hwanted : o.isLog = false → o.payload.desiredState = some .absent)
    (hstate : d.observedState ∈ removalStates) : d'.observedState ∈ removalStates := by
  cases h with
  | record mutation _ _ _ recorded =>
    cases recorded with
    | waiting => exact hstate
    | timedOut => simp [RuntimeDeployment.failedWith, removalStates]
    | unwanted => simp [RuntimeDeployment.failedWith, removalStates]
    | failed failed => rcases failed with h | h <;> simp [applySnapshot, removalStates, h]
    | succeeded _ wanted =>
      rw [desiredStateOf, payload_of_order hf.1, hwanted mutation, Option.getD_some] at wanted
      simp only [expectedStates, List.mem_singleton] at wanted
      simp [applySnapshot, removalStates, wanted]
  | keep => exact hstate
  | fail => simp [failDeployment, RuntimeDeployment.failedWith, removalStates]

/-- A request leaves a deployment unwanted only if it asks for the removal. -/
theorem Requested.removes {job : Job} {type : OperationType} (h : Requested job d d' type)
    (hstate : d.desiredState = .absent → d.observedState ∈ removalStates)
    (habsent : d'.desiredState = .absent) : job.removes = true := by
  have hadmits := h.admits
  rw [h.desired] at habsent
  cases job with
  | create => cases habsent
  | update => exact absurd habsent hadmits
  | destroy => rfl
  | action _ body =>
    simp only [Job.desired] at habsent
    cases haction : body.action <;> rw [haction] at habsent
    case start => cases habsent
    case stop => cases habsent
    all_goals
      have := (allowed_of_removing (hstate habsent) hadmits).1
      simp [haction] at this
  | logs => exact absurd hadmits id

theorem removing_step (hs : Sound w) (ha : w.db.Aligned) (h : step settings w l = some w') :
    ∀ k d, w'.db.deployments.lookup k = some d → d.desiredState = .absent →
      d.observedState ∈ removalStates := by
  refine deployments_step hs h ha.removing ?_ ?_
  · intro k d d' hd turned hstate habsent
    cases turned with
    | keep => exact hstate habsent
    | @work _ i token o o' _ _ phase found owner active _ _ session effect =>
      rw [effect.desiredState] at habsent
      have hf : phase.fits o := by
        rcases session with rfl | ⟨-, hsession⟩
        · trivial
        · obtain ⟨_, hp, hf⟩ := hs.attached _ _ _ hsession
          cases hp.symm.trans found
          exact hf
      refine effect.removing hf (fun hlog => ?_) (hstate habsent)
      subst owner
      rw [ha.wanted i o d found (RuntimeOperation.mutates_eq_true.2 ⟨active, hlog⟩) hd, habsent]
    | request _ _ _ _ requested =>
      rw [requested.observed, if_pos (requested.removes hstate habsent)]
      simp [removalStates]
  · intro k id req hash body version env o d' db₁ hd asked writes habsent
    cases asked with
    | create => cases habsent
    | request found => cases hd.symm.trans found

theorem aligned_step (hs : Sound w) (ha : w.db.Aligned) (h : step settings w l = some w') :
    w'.db.Aligned :=
  ⟨fun _ _ _ ho hmut hd => wanted_step hs ha h ho hmut hd,
    fun _ _ ho htype => undeploy_step hs ha h ho htype, removing_step hs ha h⟩

theorem aligned_of_reach {w₀ : World} (h₀ : w₀.Initial) (h : Reach (step settings) Free w₀ w) :
    w.db.Aligned := by
  refine h.invariant (fun v => v.db.Aligned)
    ⟨fun i o d ho => ?_, fun i o ho => ?_, fun k d hd => ?_⟩
    fun run ha _ next => aligned_step (sound_of_reach h₀ run) ha next
  · rw [h₀.operations] at ho; cases ho
  · rw [h₀.operations] at ho; cases ho
  · rw [h₀.deployments] at hd; cases hd

end ArchiDeal.Hosting
