import ArchiDeal.Hosting.Success

/-!
# Revisions

Every transaction that changes a deployment or its components gives the deployment a new revision.
So a revision identifies the representation of `RuntimeDeploymentSerializer`, and a request that is
accepted with the ETag of a representation is applied to exactly this representation. The name and
the slug of the application are left out: they have a revision of their own.

* `Turned.revision`: a row that changes gets a larger revision;
* `Database.releaseVersion_of_keeps`: the version of a release never changes;
* `representation_of_reach`: the version rule, for the representation of one deployment.
-/

namespace ArchiDeal.Hosting

open Transition Text

variable {settings : Settings} {w w' : World} {l : Label} {i k token : Uuid}
  {o o' : RuntimeOperation} {d d' : RuntimeDeployment} {db db' : Database} {clock : Time}
  {phase : Phase}

/-! ### ETags -/

def etag (revision : ℕ) : String := "\"" ++ toString revision ++ "\""

theorem toList_etag (r : ℕ) : (etag r).toList = '"' :: (Nat.toDigits 10 r ++ ['"']) := by
  simp [etag, toString, Nat.repr]

theorem strip_etag (r : ℕ) : strip (etag r) = etag r := by
  have hquote : isSpace '"' = false := by decide
  have hlist : (strip (etag r)).toList = (etag r).toList := by
    simp [strip, toList_etag, hquote]
  exact String.toList_inj.1 hlist

/-- A precondition with the ETag of a revision holds for this revision only. -/
theorem revision_of_precondition {req : Request} {revision r : ℕ} {resource : String}
    (h : revisionPrecondition req revision resource = .ok ()) (hm : req.ifMatch = some (etag r)) :
    revision = r := by
  unfold revisionPrecondition at h
  rw [hm] at h
  simp only at h
  split at h
  · cases h
  rename_i digits hdigits
  have hd : digits = Nat.toDigits 10 r := by
    rw [etagRevision, strip_etag, toList_etag] at hdigits
    simp only at hdigits
    split_ifs at hdigits
    cases hdigits
    exact List.dropLast_concat
  subst hd
  split at h
  · cases h
  rename_i n hn
  have heq := beq_iff_eq.1 (ensure_eq_ok.1 h)
  rw [toInt] at hn
  split_ifs at hn
  cases hn
  rw [← heq, Nat.ofDigitChars_ten_toDigits]

/-! ### Revisions of rows -/

theorem Effect.revision (h : Effect clock token o d l phase o' d') :
    d' = d ∨ d.revision < d'.revision := by
  cases h with
  | record _ _ _ _ recorded => exact .inr (by cases recorded <;> exact Nat.lt_succ_self _)
  | keep => exact .inl rfl
  | fail => exact .inr (Nat.lt_succ_self _)

theorem Turned.revision (h : Turned settings w w' k l d d') :
    d' = d ∨ d.revision < d'.revision := by
  cases h with
  | keep => exact .inl rfl
  | work _ _ _ _ _ _ effect => exact effect.revision
  | request _ _ _ _ requested => exact .inr (requested.revision ▸ Nat.lt_succ_self _)

/-! ### The version of a release -/

theorem Database.releaseVersion_of_keeps (h : Keeps db db') (hv : db.Versioned) {n : ℕ}
    {r : RuntimeRelease} (hr : db.releases.lookup n = some r) :
    db'.releaseVersion n = db.releaseVersion n := by
  obtain ⟨v, hv⟩ := hv n r hr
  obtain ⟨v', hv', -, hversion⟩ := h.versions _ v hv
  simp [Database.releaseVersion, hr, h.releases n r hr, hv, hv', hversion]

theorem versioned_of_reach {w₀ : World} (h₀ : w₀.Initial) (h : Reach (step settings) Free w₀ w) :
    w.db.Versioned := by
  refine h.invariant (fun v => v.db.Versioned) (fun n r hr => ?_) fun run hv _ next => ?_
  · rw [h₀.releases] at hr; cases hr
  · exact (keeps_step (sound_of_reach h₀ run) next).versioned hv

/-! ### Representations -/

/-- A representation without the name and the slug of the application. -/
def DeploymentRepresentation.unnamed (r : DeploymentRepresentation) : DeploymentRepresentation :=
  { r with applicationName := none, applicationSlug := none }

/-- The representation depends on the row and on the version of its release. -/
theorem unnamed_representation_congr
    (h : db'.releaseVersion d.release = db.releaseVersion d.release) :
    (db'.representation k d).unnamed = (db.representation k d).unnamed := by
  simp only [Database.representation, DeploymentRepresentation.unnamed, h]

/-- A step keeps the row and the representation of a deployment, or it raises the revision. -/
theorem representation_step (hs : Sound w) (hv : w.db.Versioned)
    (hf : ∀ k d, w.db.deployments.lookup k = some d → Faithful w.db d)
    (h : step settings w l = some w') (hd : w.db.deployments.lookup k = some d) :
    ∃ d', w'.db.deployments.lookup k = some d' ∧
      ((d' = d ∧ (w'.db.representation k d).unnamed = (w.db.representation k d).unnamed) ∨
        d.revision < d'.revision) := by
  obtain ⟨d', hd', turned⟩ := turned_step hs h hd
  refine ⟨d', hd', turned.revision.imp_left fun heq => ⟨heq, ?_⟩⟩
  obtain ⟨r, hr, -⟩ := (hf k d hd).release
  exact unnamed_representation_congr
    (Database.releaseVersion_of_keeps (keeps_step hs h) hv hr)

theorem deployment_of_reach {w₀ : World} (h₀ : w₀.Initial) (run : Reach (step settings) Free w₀ w)
    (later : Reach (step settings) Free w w') (hd : w.db.deployments.lookup k = some d) :
    ∃ d', w'.db.deployments.lookup k = some d' := by
  refine later.invariant (fun v => ∃ d', v.db.deployments.lookup k = some d') ⟨d, hd⟩ ?_
  rintro a l b hrun ⟨d', hd'⟩ - next
  obtain ⟨d'', hd'', -⟩ := turned_step (sound_of_reach h₀ (run.trans hrun)) next hd'
  exact ⟨d'', hd''⟩

/-- **Revisions identify rows and representations** along a run. -/
theorem representation_of_reach {w₀ : World} (h₀ : w₀.Initial)
    (run : Reach (step settings) Free w₀ w) (later : Reach (step settings) Free w w')
    (hd : w.db.deployments.lookup k = some d) (hd' : w'.db.deployments.lookup k = some d') :
    d.revision ≤ d'.revision ∧ (d'.revision = d.revision → d' = d ∧
      (w'.db.representation k d').unnamed = (w.db.representation k d).unnamed) := by
  have hversion := later.version
    (fun v => (v.db.deployments.lookup k).elim 0 RuntimeDeployment.revision)
    (fun v => (v.db.deployments.lookup k).map fun d => (d, (v.db.representation k d).unnamed)) ?_
  · simp only [hd, hd', Option.elim_some, Option.map_some, Option.some.injEq, Prod.mk.injEq]
      at hversion
    exact hversion
  · intro a l b hrun next
    have hreach := run.trans hrun
    obtain ⟨da, hda⟩ := deployment_of_reach h₀ run hrun hd
    obtain ⟨d₁, hd₁, ⟨rfl, hrep⟩ | hlt⟩ := representation_step (sound_of_reach h₀ hreach)
      (versioned_of_reach h₀ hreach) (faithful_of_reach h₀ hreach) next hda
    · exact .inl (by simp [hda, hd₁, hrep])
    · exact .inr (by simpa [hda, hd₁] using hlt)

/-! ### Accepted requests -/

theorem asked_of_committed {r : ℕ} {k₀ k₁ id id₁ : Uuid} {req req' : Request} {job job' : Job}
    {hash : String} (hs : Sound w) (h : step settings w (.transact r k₀ id) = some w')
    (entered : w.flights.lookup r = some ⟨req, .entered job hash⟩)
    (committed : w'.flights.lookup r = some ⟨req', .committed job' k₁ d id₁ o⟩) :
    ∃ o d db₁, Asked settings w.db req hash k₀ w.clock job o d db₁ ∧
      w.db.deployments.lookup k₀ = none := by
  cases step_change hs.owned h with
  | session _ own => cases own
  | answer =>
    rw [World.setStage, Table.lookup_insert_eq] at committed
    split_ifs at committed
    · cases committed
    · cases entered.symm.trans committed
  | refuse =>
    rw [World.setStage, Table.lookup_insert_eq, if_pos rfl] at committed
    cases committed
  | accept found newKey _ asked =>
    cases found.symm.trans entered
    exact ⟨_, _, _, asked, newKey⟩

/-- **Revisions identify representations.** Along a run the revision of a deployment never
decreases, and states with the same revision have the same representation. What is served with the
ETag of a row that is read in `w`, with components that are read later in `v`, is what a request
that is accepted with this ETag finds. -/
theorem revision_identifies_representation {settings : Settings} {w₀ w : World} (h₀ : w₀.Initial)
    (run : Reach (step settings) Free w₀ w) (k : Uuid) (d : RuntimeDeployment)
    (hd : w.db.deployments.lookup k = some d) :
    (∀ w' d', Reach (step settings) Free w w' → w'.db.deployments.lookup k = some d' →
      d.revision ≤ d'.revision ∧ (d'.revision = d.revision →
        (w'.db.representation k d').unnamed = (w.db.representation k d).unnamed)) ∧
    (∀ v dv w' d' w'' r k₀ id req job hash d'' o, Reach (step settings) Free w v →
      v.db.deployments.lookup k = some dv → Reach (step settings) Free v w' →
      w'.db.deployments.lookup k = some d' →
      w'.flights.lookup r = some ⟨req, .entered job hash⟩ → job.target k₀ = k →
      req.ifMatch = some (etag d.revision) → step settings w' (.transact r k₀ id) = some w'' →
      w''.flights.lookup r = some ⟨req, .committed job k d'' id o⟩ →
      (w'.db.representation k d').unnamed =
        (w.db.representation k { d with components := dv.components }).unnamed) := by
  refine ⟨fun w' d' later hd' => ?_, ?_⟩
  · obtain ⟨hle, heq⟩ := representation_of_reach h₀ run later hd hd'
    exact ⟨hle, fun h => (heq h).2⟩
  · intro v dv w' d' w'' r k₀ id req job hash d'' o hv hdv hw' hd' entered htarget hmatch h
      committed
    have hreach := (run.trans hv).trans hw'
    have hrevision : d'.revision = d.revision := by
      obtain ⟨o₁, d₁, db₁, asked, hnew⟩ :=
        asked_of_committed (sound_of_reach h₀ hreach) h entered committed
      subst htarget
      cases asked with
      | create => cases hnew.symm.trans hd'
      | request found current | logs found current =>
        cases found.symm.trans hd'
        exact revision_of_precondition current hmatch
    -- the components were read between two states with the same revision
    have hle := (representation_of_reach h₀ (run.trans hv) hw' hdv hd').1
    obtain ⟨hge, heq⟩ := representation_of_reach h₀ run hv hd hdv
    obtain ⟨rfl, -⟩ := heq (le_antisymm (hle.trans hrevision.le) hge)
    exact ((representation_of_reach h₀ run (hv.trans hw') hd hd').2 hrevision).2

/-- The sample deployment is served with the ETag that the request for its removal carries. -/
theorem revision_identifies_representation_sample :
    ∃ w w' w'' d d', runLabels (step sampleSettings) Free deployedWorld sampleDeploy = some w ∧
      runLabels (step sampleSettings) Free w [.begin 1 sampleDestroy, .enter 1] = some w' ∧
      step sampleSettings w' (.transact 1 4 3) = some w'' ∧ w.db.deployments.lookup 1 = some d ∧
      w'.db.deployments.lookup 1 = some d' ∧
      (w'.db.representation 1 d').unnamed = (w.db.representation 1 d).unnamed := by
  have hrun : (runLabels (step sampleSettings) Free deployedWorld sampleDeploy).any (fun w =>
      (runLabels (step sampleSettings) Free w [.begin 1 sampleDestroy, .enter 1]).any fun w' =>
        (step sampleSettings w' (.transact 1 4 3)).any fun w'' =>
          (w.db.deployments.lookup 1).any fun d => (w'.db.deployments.lookup 1).any fun _ =>
            (w''.db.deployments.lookup 1).any fun d'' => (w''.db.operations.lookup 3).any fun o =>
              sampleDestroy.ifMatch = some (etag d.revision) ∧
              w'.flights.lookup 1 = some ⟨sampleDestroy, .entered (.destroy 1)
                "14fcf7518378db0d1cd729da2e279b29513fa5b00cc82d8f2ec2c16a83f1acd5"⟩ ∧
              w''.flights.lookup 1 =
                some ⟨sampleDestroy, .committed (.destroy 1) 1 d'' 3 o⟩) = true := by
    decide +kernel
  obtain ⟨w, hw, hrun⟩ := (Option.any_eq_true _ _).1 hrun
  obtain ⟨w', hw', hrun⟩ := (Option.any_eq_true _ _).1 hrun
  obtain ⟨w'', hw'', hrun⟩ := (Option.any_eq_true _ _).1 hrun
  obtain ⟨d, hd, hrun⟩ := (Option.any_eq_true _ _).1 hrun
  obtain ⟨d', hd', hrun⟩ := (Option.any_eq_true _ _).1 hrun
  obtain ⟨d'', hd'', hrun⟩ := (Option.any_eq_true _ _).1 hrun
  obtain ⟨o, ho, hrun⟩ := (Option.any_eq_true _ _).1 hrun
  obtain ⟨hmatch, entered, committed⟩ := of_decide_eq_true hrun
  have run := (reach_deployedWorld trivial trivial trivial).trans (reach_of_runLabels hw)
  refine ⟨w, w', w'', d, d', hw, hw', hw'', hd, hd', ?_⟩
  exact (revision_identifies_representation initial_sampleWorld run 1 d hd).2 w d w' d' w'' 1 4 3
    sampleDestroy (.destroy 1) _ d'' o .refl hd (reach_of_runLabels hw') hd' entered rfl hmatch hw''
      committed

end ArchiDeal.Hosting
