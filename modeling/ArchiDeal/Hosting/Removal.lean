import ArchiDeal.Hosting.Desired

/-!
# Removal

A deployment is removed by an undeploy operation, and `deleted_at` frees the slot of its application
in the environment. Two guards are missing in the source:

* `_apply_snapshot` sets `deleted_at` for every operation whose report says `deleted`, and for an
  operation that is no undeploy `_record_snapshot` then stores the state `failed`;
* `partial_update` refuses a deployment whose removal is requested, the actions `start` and `stop`
  do not: after a failed undeploy they make it wanted again.

`truthful` and `resolute` exclude such steps, and the runs without them have the two properties.
-/

namespace ArchiDeal.Hosting

open Transition

variable {settings : Settings} {w w' : World} {l : Label} {i k token : Uuid}
  {o o' : RuntimeOperation} {d d' : RuntimeDeployment} {clock : Time} {phase : Phase}

/-! ### Deletion -/

/-- The worker that holds the lease records no report that says `deleted` at the target generation,
unless its operation is an undeploy. -/
def truthful (w : World) : Label → Bool
  | .record token _ => (w.sessions.lookup token).all fun session => match session.phase with
    | .recording _ s => (w.db.operations.lookup session.operation).all fun o =>
      o.leaseToken != some token || s.state != .deleted ||
        s.observedGeneration != o.targetGeneration || o.operationType == .undeploy
    | _ => true
  | _ => true

/-- The runs of truthful steps. -/
abbrev Truthful (w : World) (l : Label) : Prop := truthful w l = true

theorem undeploy_of_truthful {now : Time} {loaded : Loaded} {s : RuntimeSnapshot}
    (h : Truthful w (.record token now))
    (hp : w.sessions.lookup token = some ⟨i, .recording loaded s⟩)
    (ho : w.db.operations.lookup i = some o) (held : o.leaseToken = some token)
    (hstate : s.state = .deleted) (hgeneration : s.observedGeneration = o.targetGeneration) :
    o.operationType = .undeploy := by
  simpa [Truthful, truthful, hp, ho, held, hstate, hgeneration] using h

/-- A deployment is marked as deleted when its state is `deleted`. -/
def RuntimeDeployment.Tidy (d : RuntimeDeployment) : Prop :=
  d.deletedAt.isSome = true ↔ d.observedState = .deleted

theorem RuntimeDeployment.Tidy.deletedAt (h : d.Tidy) (hstate : d.observedState ≠ .deleted) :
    d.deletedAt = none := by
  rw [← Option.not_isSome_iff_eq_none]
  exact fun hd => hstate (h.1 hd)

theorem RuntimeDeployment.tidy_of_live (hd : d.deletedAt = none)
    (hstate : d.observedState ≠ .deleted) : d.Tidy := by
  simp [RuntimeDeployment.Tidy, hd, hstate]

/-- **Recording a deletion.** A report on a deployment that is not deleted keeps it so, or it says
`deleted` at the target generation; if the operation wants the removal, it then succeeds. -/
theorem Recorded.deletion {loaded : RuntimeOperation} {s : RuntimeSnapshot} {now : Time}
    (h : Recorded loaded o d s now clock o' d') (hle : s.observedGeneration ≤ o.targetGeneration)
    (hlive : d.deletedAt = none) (hstate : d.observedState ≠ .deleted) :
    (d'.deletedAt = none ∧ d'.observedState ≠ .deleted) ∨
      s.state = .deleted ∧ s.observedGeneration = o.targetGeneration ∧
        (.deleted ∈ expectedStates (desiredStateOf loaded d) →
          d'.deletedAt = some clock ∧ d'.observedState = .deleted ∧ o'.status = .succeeded) := by
  by_cases hs : s.state = .deleted
  · have hgeneration := fun caughtUp => observedGeneration_of_caughtUp hle caughtUp
      (by rw [hs]; rintro ⟨⟩) (by rw [hs]; rintro ⟨⟩)
    cases h with
    | waiting => exact .inl ⟨hlive, hstate⟩
    | timedOut => exact .inl ⟨hlive, by rintro ⟨⟩⟩
    | unwanted _ caughtUp wrong =>
      exact .inr ⟨hs, hgeneration caughtUp, fun hwanted => absurd (hs ▸ hwanted) wrong⟩
    | failed failed => rw [hs] at failed; rcases failed with h | h <;> cases h
    | succeeded caughtUp =>
      refine .inr ⟨hs, hgeneration caughtUp, fun _ => ⟨?_, hs, rfl⟩⟩
      simp [applySnapshot, hs]
  · refine .inl ?_
    cases h with
    | waiting => exact ⟨hlive, hstate⟩
    | timedOut => exact ⟨hlive, by rintro ⟨⟩⟩
    | unwanted =>
      exact ⟨by simp [RuntimeDeployment.failedWith, applySnapshot, hs, hlive], by rintro ⟨⟩⟩
    | failed => exact ⟨by simp [applySnapshot, hs, hlive], hs⟩
    | succeeded => exact ⟨by simp [applySnapshot, hs, hlive], hs⟩

/-- An undeploy of deployment `k` succeeds. -/
def Undeploys (w w' : World) (k : Uuid) : Prop :=
  ∃ i o o', w.db.operations.lookup i = some o ∧ o.isActive = true ∧
    w'.db.operations.lookup i = some o' ∧ o'.deployment = k ∧ o'.operationType = .undeploy ∧
    o'.status = .succeeded

/-- **Deletion.** A truthful step keeps the mark and the state together, and it sets the mark only
by an undeploy that succeeds. -/
theorem Turned.tidy (hs : Sound w) (hq : w.db.Queue) (ha : w.db.Aligned) (hok : Truthful w l)
    (hd : w.db.deployments.lookup k = some d) (turned : Turned settings w w' k l d d')
    (ht : d.Tidy) : d'.Tidy ∧ (d'.deletedAt ≠ d.deletedAt → Undeploys w w' k) := by
  cases turned with
  | keep => exact ⟨ht, fun h => absurd rfl h⟩
  | @work _ i token o o' _ _ phase found owner active saved order session effect =>
    -- the deployment waits for the operation, unless this is a log
    have hlive : o.isLog = false → d.deletedAt = none ∧ d.observedState ≠ .deleted := by
      intro hlog
      have hmut := RuntimeOperation.mutates_eq_true.2 ⟨active, hlog⟩
      have hwait := (hq.transitional k d hd).2 ⟨i, o, found, owner, hmut⟩
      have hstate : d.observedState ≠ .deleted := by
        intro h
        rw [h] at hwait
        cases hwait
      exact ⟨ht.deletedAt hstate, hstate⟩
    cases effect with
    | record mutation le_target _ _ recorded =>
      obtain ⟨held, hsession⟩ := session.resolve_left (by rintro ⟨⟩)
      obtain ⟨_, hp, hf⟩ := hs.attached _ _ _ hsession
      cases hp.symm.trans found
      rcases recorded.deletion le_target (hlive mutation).1 (hlive mutation).2 with
        ⟨hlive', hstate'⟩ | ⟨hdeleted, hgeneration, hwanted⟩
      · refine ⟨RuntimeDeployment.tidy_of_live hlive' hstate', fun h => ?_⟩
        exact absurd (hlive'.trans (hlive mutation).1.symm) h
      · have htype := undeploy_of_truthful hok hsession found held hdeleted hgeneration
        obtain ⟨hmark, hstate', hdone⟩ := hwanted (by
          rw [desiredStateOf, payload_of_order hf.1, ha.undeploy i o found htype]
          exact List.mem_singleton.2 rfl)
        refine ⟨by simp [RuntimeDeployment.Tidy, hmark, hstate'], fun _ => ?_⟩
        exact ⟨i, o, o', found, active, saved, (deployment_of_order order).trans owner,
          (operationType_of_order order).trans htype, hdone⟩
    | keep => exact ⟨ht, fun h => absurd rfl h⟩
    | fail mutation =>
      exact ⟨RuntimeDeployment.tidy_of_live (hlive mutation).1 (by rintro ⟨⟩), fun h =>
        absurd rfl h⟩
  | request _ _ _ _ requested =>
    refine ⟨RuntimeDeployment.tidy_of_live (requested.deletedAt.trans requested.live) ?_,
      fun h => absurd requested.deletedAt h⟩
    rw [requested.observed]
    split_ifs <;> rintro ⟨⟩

theorem tidy_of_reach {w₀ : World} (h₀ : w₀.Initial) (h : Reach (step settings) Truthful w₀ w) :
    ∀ k d, w.db.deployments.lookup k = some d → d.Tidy := by
  refine h.invariant (fun v => ∀ k d, v.db.deployments.lookup k = some d → d.Tidy)
    (fun k d hd => ?_) fun run ht hok next => ?_
  · rw [h₀.deployments] at hd; cases hd
  · have hs := sound_of_reach h₀ run.free
    refine deployments_step hs next ht (fun k d d' hd turned ht => ?_) ?_
    · exact (turned.tidy hs (queue_of_reach h₀ run.free) (aligned_of_reach h₀ run.free) hok hd ht).1
    · intro k id req hash body version env o d' db₁ hd asked _
      cases asked with
      | create => exact RuntimeDeployment.tidy_of_live rfl nofun
      | request found => cases hd.symm.trans found

/-- **Deletion is consistent** in every run in which the worker that holds the lease records a
report of `deleted` at the target generation only for an undeploy: a deployment is marked as deleted
exactly when its state is `deleted`, and the mark is only set by an undeploy that succeeds. -/
theorem deletion_consistent {settings : Settings} {w₀ w : World} (h₀ : w₀.Initial)
    (run : Reach (step settings) Truthful w₀ w) :
    (∀ k d, w.db.deployments.lookup k = some d →
      (d.deletedAt.isSome = true ↔ d.observedState = .deleted)) ∧
    (∀ l w' k d', Truthful w l → step settings w l = some w' →
      w'.db.deployments.lookup k = some d' → d'.deletedAt ≠ none →
      (∀ d, w.db.deployments.lookup k = some d → d.deletedAt ≠ d'.deletedAt) →
      ∃ i o o', w.db.operations.lookup i = some o ∧ o.isActive = true ∧
        w'.db.operations.lookup i = some o' ∧ o'.deployment = k ∧ o'.operationType = .undeploy ∧
        o'.status = .succeeded) := by
  have hs := sound_of_reach h₀ run.free
  have ht := tidy_of_reach h₀ run
  refine ⟨ht, fun l w' k d' hok h hd' hmark hbefore => ?_⟩
  cases hd : w.db.deployments.lookup k with
  | none =>
    obtain ⟨id, req, hash, body, version, env, o, db₁, asked, -⟩ := deployment_new hs h hd hd'
    cases asked with
    | create => exact absurd rfl hmark
    | request found => cases hd.symm.trans found
  | some d =>
    obtain ⟨d'', hd'', turned⟩ := turned_step hs h hd
    cases hd''.symm.trans hd'
    have hq := queue_of_reach h₀ run.free
    exact (turned.tidy hs hq (aligned_of_reach h₀ run.free) hok hd (ht k d hd)).2
      (hbefore d hd).symm

/-- The removal of the sample deployment is requested, and a worker takes it up. -/
def sampleRemoval : List Label :=
  sampleDeploy ++ [.begin 1 sampleDestroy, .enter 1, .transact 1 4 3, .claim "a" 3 20 0, .load 20]

/-- The controller reports that the sample deployment is deleted. -/
theorem deletion_consistent_sample :
    ∃ w w' d', runLabels (step sampleSettings) Truthful deployedWorld
        (sampleRemoval ++ [.reply 20 (.ok (sampleReport "deleted" 2 []))]) = some w ∧
      step sampleSettings w (.record 20 0) = some w' ∧
      w'.db.deployments.lookup 1 = some d' ∧ d'.deletedAt ≠ none ∧
      ∃ i o o', w.db.operations.lookup i = some o ∧ o.isActive = true ∧
        w'.db.operations.lookup i = some o' ∧ o'.deployment = 1 ∧ o'.operationType = .undeploy ∧
        o'.status = .succeeded := by
  have hrun : (runLabels (step sampleSettings) Truthful deployedWorld
      (sampleRemoval ++ [.reply 20 (.ok (sampleReport "deleted" 2 []))])).any (fun w =>
        (step sampleSettings w (.record 20 0)).any fun w' =>
          (w'.db.deployments.lookup 1).any fun d' => truthful w (.record 20 0) ∧
            d'.deletedAt ≠ none ∧
            (w.db.deployments.lookup 1).all fun d => d.deletedAt ≠ d'.deletedAt) = true := by
    decide +kernel
  obtain ⟨w, hw, hrun⟩ := (Option.any_eq_true _ _).1 hrun
  obtain ⟨w', hw', hrun⟩ := (Option.any_eq_true _ _).1 hrun
  obtain ⟨d', hd', hrun⟩ := (Option.any_eq_true _ _).1 hrun
  obtain ⟨hok, hmark, hbefore⟩ := of_decide_eq_true hrun
  have run := (reach_deployedWorld rfl rfl rfl).trans (reach_of_runLabels hw)
  exact ⟨w, w', d', hw, hw', hd', hmark, (deletion_consistent initial_sampleWorld run).2 _ w' 1 d'
    hok hw' hd' hmark (by simpa [Option.all_eq_true] using hbefore)⟩

/-- **A deployment can be marked as deleted without being removed.** The controller answers the
first deployment with `deleted`: the operation fails, the deployment is `failed` and marked. -/
theorem deletion_inconsistent :
    ∃ w d o, Reach (step sampleSettings) Free sampleWorld w ∧
      w.db.deployments.lookup 1 = some d ∧ d.deletedAt.isSome = true ∧ d.observedState = .failed ∧
      w.db.operations.lookup 2 = some o ∧ o.deployment = 1 ∧ o.operationType = .deploy ∧
      o.status = .failed ∧ ∀ i p, w.db.operations.lookup i = some p → i = 2 := by
  have hrun : (runLabels (step sampleSettings) Free deployedWorld
      [.claim "a" 2 10 0, .load 10, .reply 10 (.ok (sampleReport "deleted" 1 [])),
        .record 10 0]).any (fun w => (w.db.deployments.lookup 1).any fun d =>
          (w.db.operations.lookup 2).any fun o => (d.deletedAt.isSome ∧ d.observedState = .failed) ∧
            (o.deployment = 1 ∧ o.operationType = .deploy ∧ o.status = .failed) ∧
            w.db.operations.keys = [2]) = true := by
    decide +kernel
  obtain ⟨w, hw, hrun⟩ := (Option.any_eq_true _ _).1 hrun
  obtain ⟨d, hd, hrun⟩ := (Option.any_eq_true _ _).1 hrun
  obtain ⟨o, ho, hrun⟩ := (Option.any_eq_true _ _).1 hrun
  obtain ⟨⟨hmark, hstate⟩, ⟨hk, htype, hstatus⟩, hkeys⟩ := of_decide_eq_true hrun
  have run := (reach_deployedWorld trivial trivial trivial).trans (reach_of_runLabels hw)
  refine ⟨w, d, o, run, hd, hmark, hstate, ho, hk, htype, hstatus, fun i p hp => ?_⟩
  have hmem : i ∈ w.db.operations := AList.lookup_isSome.1 (by rw [hp]; rfl)
  rw [AList.mem_keys, hkeys] at hmem
  exact List.mem_singleton.1 hmem

/-! ### Removal -/

/-- No start and no stop is processed for a deployment whose removal is requested and has failed. -/
def resolute (w : World) : Label → Bool
  | .transact r _ _ => (w.flights.lookup r).all fun flight => match flight.stage with
    | .entered (.action k body) _ => (body.action != .start && body.action != .stop) ||
      (w.db.deployments.lookup k).all fun d => d.desiredState != .absent ||
        (d.observedState != .failed && d.observedState != .unknown)
    | _ => true
  | _ => true

/-- The runs of resolute steps. -/
abbrev Resolute (w : World) (l : Label) : Prop := resolute w l = true

theorem steady_of_resolute {r : ℕ} {k₀ id : Uuid} {req : Request} {hash : String}
    {body : ActionBody} (h : Resolute w (.transact r k₀ id))
    (flight : w.flights.lookup r = some ⟨req, .entered (.action k body) hash⟩)
    (hd : w.db.deployments.lookup k = some d) (haction : body.action = .start ∨ body.action = .stop)
    (habsent : d.desiredState = .absent) : ¬ (d.observedState = .failed ∨ d.observedState =
      .unknown) := by
  have hok : resolute w (.transact r k₀ id) = true := h
  simp only [resolute, flight, hd, habsent, Option.all_some] at hok
  rcases haction with haction | haction <;> simpa [haction] using hok

/-- **Removal.** A resolute step does not make a deployment wanted whose removal is requested. -/
theorem Turned.absent (ha : w.db.Aligned) (hok : Resolute w l)
    (hd : w.db.deployments.lookup k = some d) (turned : Turned settings w w' k l d d')
    (habsent : d.desiredState = .absent) : d'.desiredState = .absent := by
  cases turned with
  | keep => exact habsent
  | work _ _ _ _ _ _ effect => rw [effect.desiredState, habsent]
  | @request _ _ _ _ _ job _ _ _ _ flight target _ _ requested =>
    have hadmits := requested.admits
    rw [requested.desired]
    cases job with
    | create => exact absurd hadmits id
    | update => exact absurd habsent hadmits
    | destroy => rfl
    | action k' body =>
      cases target
      obtain ⟨haction, hstate⟩ := allowed_of_removing (ha.removing _ d hd habsent) hadmits
      exact absurd hstate (steady_of_resolute hok flight hd haction habsent)
    | logs => exact absurd hadmits id

/-- **Removal is irrevocable** in every run in which no start and no stop is processed for a
deployment whose removal is requested and has failed: the deployment stays unwanted, and every
operation of it that is queued later, or is still active, wants the removal. -/
theorem removal_irrevocable {settings : Settings} {w₀ w w' : World} (h₀ : w₀.Initial)
    (run : Reach (step settings) Free w₀ w) (k : Uuid) (d : RuntimeDeployment)
    (hd : w.db.deployments.lookup k = some d) (habsent : d.desiredState = .absent)
    (later : Reach (step settings) Resolute w w') :
    (∃ d', w'.db.deployments.lookup k = some d' ∧ d'.desiredState = .absent) ∧
    (∀ i o, w'.db.operations.lookup i = some o → o.deployment = k → o.isLog = false →
      (w.db.operations.lookup i = none ∨ o.isActive = true) →
      o.payload.desiredState = some .absent) := by
  have hinv : (∃ d', w'.db.deployments.lookup k = some d' ∧ d'.desiredState = .absent) ∧
      ∀ i o, w'.db.operations.lookup i = some o → o.deployment = k → o.isLog = false →
        w.db.operations.lookup i = none → o.payload.desiredState = some .absent := by
    refine later.invariant (fun v => (∃ d', v.db.deployments.lookup k = some d' ∧
      d'.desiredState = .absent) ∧ ∀ i o, v.db.operations.lookup i = some o → o.deployment = k →
        o.isLog = false → w.db.operations.lookup i = none →
          o.payload.desiredState = some .absent) ⟨⟨d, hd, habsent⟩, fun i o ho _ _ hnone => ?_⟩ ?_
    · cases hnone.symm.trans ho
    · rintro a l b hrun ⟨⟨d', hd', habsent'⟩, hops⟩ hok next
      have hreach := run.trans hrun.free
      have hs := sound_of_reach h₀ hreach
      obtain ⟨d'', hd'', turned⟩ := turned_step hs next hd'
      have habsent'' := turned.absent (aligned_of_reach h₀ hreach) hok hd' habsent'
      refine ⟨⟨d'', hd'', habsent''⟩, fun i o' ho' hk hlog hnone => ?_⟩
      -- an operation is new and asks for what its deployment wants, or keeps its order
      cases ho : a.db.operations.lookup i with
      | none =>
        obtain ⟨req, hash, k₀, job, d₀, db₁, asked, writes⟩ := operation_new hs next ho ho'
        have hrow := writes.deployments k
        rw [hd'', if_pos hk.symm] at hrow
        cases hrow
        rw [asked.desiredState hlog, habsent'']
      | some o =>
        obtain ⟨p, hp, horder⟩ := order_step hs.owned next ho
        cases hp.symm.trans ho'
        rw [payload_of_order horder]
        exact hops i o ho (deployment_of_order horder ▸ hk) (isLog_of_order horder ▸ hlog) hnone
  obtain ⟨⟨d', hd', habsent'⟩, hops⟩ := hinv
  refine ⟨⟨d', hd', habsent'⟩, fun i o ho hk hlog hcase => ?_⟩
  rcases hcase with hnone | hactive
  · exact hops i o ho hk hlog hnone
  · subst hk
    have ha := aligned_of_reach h₀ (run.trans later.free)
    rw [ha.wanted i o d' ho (RuntimeOperation.mutates_eq_true.2 ⟨hactive, hlog⟩) hd', habsent']

/-- The undeploy of the sample deployment fails. -/
def sampleRefusal : List Label :=
  [.reply 20 (.error (.error "Refused." (some 400))), .fail 20 0]

/-- The removal of the sample deployment is requested, and fails. -/
theorem removal_irrevocable_sample :
    ∃ w w' d', runLabels (step sampleSettings) Free deployedWorld sampleRemoval = some w ∧
      runLabels (step sampleSettings) Resolute w sampleRefusal = some w' ∧
      w'.db.deployments.lookup 1 = some d' ∧ d'.observedState = .failed ∧
      d'.desiredState = .absent := by
  have hrun : (runLabels (step sampleSettings) Free deployedWorld sampleRemoval).any (fun w =>
      (runLabels (step sampleSettings) Resolute w sampleRefusal).any fun w' =>
        (w.db.deployments.lookup 1).any fun d => d.desiredState = .absent ∧
          (w'.db.deployments.lookup 1).all fun d' => d'.observedState = .failed) = true := by
    decide +kernel
  obtain ⟨w, hw, hrun⟩ := (Option.any_eq_true _ _).1 hrun
  obtain ⟨w', hw', hrun⟩ := (Option.any_eq_true _ _).1 hrun
  obtain ⟨d, hd, hrun⟩ := (Option.any_eq_true _ _).1 hrun
  obtain ⟨habsent, hfailed⟩ := of_decide_eq_true hrun
  have run := (reach_deployedWorld trivial trivial trivial).trans (reach_of_runLabels hw)
  obtain ⟨d', hd', habsent'⟩ :=
    (removal_irrevocable initial_sampleWorld run 1 d hd habsent (reach_of_runLabels hw')).1
  rw [hd', Option.all_some, decide_eq_true_eq] at hfailed
  exact ⟨w, w', d', hw, hw', hd', hfailed, habsent'⟩

def sampleStart : Request :=
  { endpoint := .actions (some 1) (.ok { action := .start })
    idempotencyKey := some "start-01"
    ifMatch := some "\"4\"" }

/-- **A removal can be revoked.** After the failed undeploy a start is accepted: the deployment is
wanted again, and the new operation wants it to run. -/
theorem removal_revoked :
    ∃ w w' d d' o, Reach (step sampleSettings) Free sampleWorld w ∧
      Reach (step sampleSettings) Free w w' ∧ w.db.deployments.lookup 1 = some d ∧
      d.desiredState = .absent ∧ w'.db.deployments.lookup 1 = some d' ∧
      d'.desiredState = .running ∧ w.db.operations.lookup 5 = none ∧
      w'.db.operations.lookup 5 = some o ∧ o.deployment = 1 ∧ o.operationType = .start ∧
      o.payload.desiredState = some .running := by
  have hrun : (runLabels (step sampleSettings) Free deployedWorld
    (sampleRemoval ++ sampleRefusal)).any
      (fun w => (runLabels (step sampleSettings) Free w
        [.begin 2 sampleStart, .enter 2, .transact 2 4 5]).any fun w' =>
          (w.db.deployments.lookup 1).any fun d => (w'.db.deployments.lookup 1).any fun d' =>
            (w'.db.operations.lookup 5).any fun o => d.desiredState = .absent ∧
              d'.desiredState = .running ∧ w.db.operations.lookup 5 = none ∧ o.deployment = 1 ∧
              o.operationType = .start ∧ o.payload.desiredState = some .running) = true := by
    decide +kernel
  obtain ⟨w, hw, hrun⟩ := (Option.any_eq_true _ _).1 hrun
  obtain ⟨w', hw', hrun⟩ := (Option.any_eq_true _ _).1 hrun
  obtain ⟨d, hd, hrun⟩ := (Option.any_eq_true _ _).1 hrun
  obtain ⟨d', hd', hrun⟩ := (Option.any_eq_true _ _).1 hrun
  obtain ⟨o, ho, hrun⟩ := (Option.any_eq_true _ _).1 hrun
  obtain ⟨habsent, hrunning, hnone, hk, htype, hpayload⟩ := of_decide_eq_true hrun
  have run := (reach_deployedWorld trivial trivial trivial).trans (reach_of_runLabels hw)
  exact ⟨w, w', d, d', o, run, reach_of_runLabels hw', hd, habsent, hd', hrunning, hnone, ho, hk,
    htype, hpayload⟩

end ArchiDeal.Hosting
