import ArchiDeal.Reconciler.Generations

/-!
# Deleted identifiers

The record of a deletion is the state object, and the state object goes away with the deployment; an
undeploy that finds none writes none. `deleted_not_reused` says when an identifier is protected
nevertheless; in the run of `deleted_identifier_reused` a deploy arrives after the newer undeploy.
-/

namespace ArchiDeal.Reconciler

open Text Hosting Calls Json Transition

variable {settings : ControllerSettings} {py : FloatReader} {api : ApiServer}
  {deploymentId : String} {s t : Cluster} {l : Label} {g : ℕ}

/-! ### Reports -/

/-- The cluster with the generations that have been reported as deleted. -/
abbrev Reporting := Cluster × List ℕ

/-- One step; a `DELETE` or a status request that reports the state `deleted` is noted. -/
def reportingStep (settings : ControllerSettings) (py : FloatReader) (api : ApiServer)
    (deploymentId : String) (w : Reporting) (l : Label) : Option Reporting :=
  (step settings py api deploymentId w.1 l).map fun t =>
    (t, if l.request.deploys then w.2
      else (reportsDeleted settings py api deploymentId w.1 l).toList ++ w.2)

/-- A `POST` finds the state object, which is not removed while it runs, or it is newer than
everything that has been deleted. -/
def Label.Fresh (settings : ControllerSettings) (py : FloatReader) (deploymentId : String)
    (w : Reporting) (l : Label) : Prop :=
  l.request.creates = true →
    (stored w.1 (stateKey settings deploymentId)).isSome ∧ l.Stays settings deploymentId ∨
      ∀ d, l.request.desired settings py = some d → ∀ g ∈ w.2, g < d.generation

/-! ### The record of a deletion -/

/-- The record is gone or dead, or its generation is above `g`. -/
def Beyond (py : FloatReader) (g : ℕ) (st : Option Resource) : Prop :=
  ∀ r, st = some r → isDead r = true ∨ ∃ g', recordedGeneration py r = some g' ∧ (g : ℤ) < g'

theorem Gone.beyond {st : Option Resource} (h : Gone st) : Beyond py g st :=
  fun r hr => .inl (h r hr)

/-- One step keeps `Beyond` and accepts only larger generations, if a `POST` that finds no state
object has one. -/
theorem beyond_record {ok : Drift → Prop} (pre : Cluster → Prop) (hduring : l.During ok)
    (hpre : Prog.Stable (tracked api fun _ => true) ok fun t => pre t.1)
    (hstep : step settings py api deploymentId s l = some t)
    (hcreate : ∀ d s, l.request.desired settings py = some d → l.request.creates = true → pre s →
      s.content (stateKey settings deploymentId) = none → g < d.generation) (hp : pre s)
    (hs : Beyond py g (stored s (stateKey settings deploymentId))) :
    Beyond py g (stored t (stateKey settings deploymentId)) ∧
      (accepts settings py api deploymentId s l = true →
        ∀ d, l.request.desired settings py = some d → g < d.generation) := by
  refine record_step pre hstep hduring hpre (fun _ => nofun) ?_ ?_ ?_ ?_ ?_ hs hp
  · intro d state _ hstate hadmits
    obtain ⟨current, hcurrent, hlive, hgeneration, -⟩ := admitDeploy_eq_ok hadmits
    rcases hstate _ rfl with hdead | ⟨g', hg', hlt⟩
    · rw [show isDead state.record = isDead state from rfl, hlive] at hdead
      cases hdead
    · cases hg'.symm.trans (generation_of_desiredFromState hcurrent)
      omega
  · exact fun d s hd hcreates hp hcontent _ => hcreate d s hd hcreates hp hcontent
  · rintro d phase r hwell hlt - - hr _ ⟨⟩
    exact .inr ⟨_, hr.recordedGeneration hwell, by exact_mod_cast hlt⟩
  · rintro desired state d - - - r hr _ ⟨⟩
    exact .inl (hr.isDead.2 (.inl rfl))
  · rintro d - - r hr _ ⟨⟩
    exact .inl (hr.isDead.2 (.inl rfl))

theorem beyond_step {gs : List ℕ} (hg : g ∈ gs) (hfresh : l.Fresh settings py deploymentId (s, gs))
    (hstep : step settings py api deploymentId s l = some t)
    (hs : Beyond py g (stored s (stateKey settings deploymentId))) :
    Beyond py g (stored t (stateKey settings deploymentId)) ∧
      (accepts settings py api deploymentId s l = true →
        ∀ d, l.request.desired settings py = some d → g < d.generation) := by
  by_cases hcreates : l.request.creates = true
  · rcases hfresh hcreates with ⟨hpresent, hstays⟩ | hnewer
    · refine beyond_record
        (fun s => (stored s (stateKey settings deploymentId)).isSome) hstays ?_ hstep ?_ hpresent hs
      · intro c t hc ht
        show (stored (t.1.drift _ c) _).isSome
        rwa [stored_drift_of_ne hc]
      · intro d s _ _ hp hcontent
        rw [stored, hcontent] at hp
        cases hp
    · exact beyond_record (fun _ => True) l.during_any (fun _ _ _ _ => trivial) hstep
        (fun d _ hd _ _ _ => hnewer d hd g hg) trivial hs
  · exact beyond_record (fun _ => True) l.during_any (fun _ _ _ _ => trivial) hstep
      (fun _ _ _ h => absurd h hcreates) trivial hs

theorem beyond_report (hl : l.request.deploys = false)
    (hstep : step settings py api deploymentId s l = some t)
    (hreport : (reportsDeleted settings py api deploymentId s l).isSome) :
    Beyond py g (stored t (stateKey settings deploymentId)) :=
  ((other_step (fun _ => True) hl hstep l.during_any (fun _ => trivial)
    (fun _ _ _ _ _ _ _ _ => trivial) (fun _ _ _ _ _ => trivial) trivial).2 hreport).beyond

/-- **A deleted identifier is not reused**, in runs in which every `POST` finds the state object or
is newer than what has been deleted: once a generation has been reported as deleted, only larger
generations are accepted. -/
theorem deleted_not_reused {gs : List ℕ}
    (run : Reach (reportingStep settings py api deploymentId)
      (fun w l => l.Fresh settings py deploymentId w) (s, []) (t, gs)) :
    ∀ g ∈ gs, ∀ l d, l.Fresh settings py deploymentId (t, gs) →
      accepts settings py api deploymentId t l = true →
      l.request.desired settings py = some d → g < d.generation := by
  have hinv : ∀ g ∈ gs, Beyond py g (stored t (stateKey settings deploymentId)) := by
    refine run.invariant
      (fun w => ∀ g ∈ w.2, Beyond py g (stored w.1 (stateKey settings deploymentId))) nofun ?_
    rintro ⟨a, gs⟩ l ⟨b, gs'⟩ - ha hfresh hnext g hg
    obtain ⟨b', hstep, heq⟩ := Option.map_eq_some_iff.1 hnext
    cases heq
    by_cases hl : l.request.deploys = true
    · rw [if_pos hl] at hg
      exact (beyond_step hg hfresh hstep (ha g hg)).1
    · rw [if_neg hl, List.mem_append] at hg
      rcases hg with hg | hg
      · exact beyond_report (Bool.not_eq_true _ ▸ hl) hstep (Option.isSome_iff_exists.2 ⟨g, by
          simpa using hg⟩)
      · exact (beyond_step hg hfresh hstep (ha g hg)).1
  intro g hg l d hfresh haccepts hd
  obtain ⟨u, -, hu, -⟩ := step_of_accepts haccepts
  exact (beyond_step hg hfresh hu (hinv g hg)).2 haccepts d hd

/-! ### A delayed deploy -/

/-- The undeploy with generation 2 of the sample, in fine weather. -/
def sampleDelete : Label :=
  ⟨.delete (bodyOf (samplePayload 2 .absent "web" "hello")), "request-1", []⟩

theorem serve_sampleDelete :
    serve sampleSettings sampleReader sampleServer sampleId ∅ sampleDelete =
    (.returned (deletedResult (sampleDesired 2 .absent "web" "hello")), (∅, [])) := by
  have hbody : deleteBody sampleSettings sampleReader sampleId
      (bodyOf (samplePayload 2 .absent "web" "hello")) =
      .ok (some (sampleDesired 2 .absent "web" "hello")) :=
    deleteBody_of_desiredBody (d := sampleDesired 2 .absent "web" "hello")
      (desiredBody_sample isSample_hello (by decide) (by decide) fun _ => rfl)
  rw [serve, sampleDelete, Request.program, hbody]
  rfl

/-- The undeploy finds no state object and reports the deployment as deleted. -/
theorem reach_deleted : Reach (reportingStep sampleSettings sampleReader sampleServer sampleId)
    (fun w l => l.Fresh sampleSettings sampleReader sampleId w) (∅, []) (∅, [2]) := by
  refine Reach.single (l := sampleDelete) nofun ?_
  rw [reportingStep, reportsDeleted, step, serve_sampleDelete]
  rfl

theorem accepts_deleted {generation : ℕ} (hpositive : 1 ≤ generation)
    (hgeneration : generation ≤ 3) :
    accepts sampleSettings sampleReader sampleServer sampleId ∅
      (samplePost generation "hello" "request-2" []) = true :=
  accepts_samplePost isSample_hello hpositive hgeneration ⟨rfl, nofun, nofun⟩

theorem deleted_not_reused_sample : ∃ t l d,
    Reach (reportingStep sampleSettings sampleReader sampleServer sampleId)
      (fun w l => l.Fresh sampleSettings sampleReader sampleId w) (∅, []) (t, [2]) ∧
    l.Fresh sampleSettings sampleReader sampleId (t, [2]) ∧
    accepts sampleSettings sampleReader sampleServer sampleId t l = true ∧
    l.request.desired sampleSettings sampleReader = some d ∧ 2 < d.generation := by
  set l := samplePost 3 "hello" "request-2" []
  have hdesired : l.request.desired sampleSettings sampleReader =
      some (sampleDesired 3 .running "web" "hello") :=
    desired_samplePost isSample_hello (by decide) le_rfl
  have haccepts : accepts sampleSettings sampleReader sampleServer sampleId ∅ l = true :=
    accepts_deleted (by decide) le_rfl
  have hfresh : l.Fresh sampleSettings sampleReader sampleId (∅, [2]) := by
    refine fun _ => .inr fun d' hd' g hg => ?_
    cases hdesired.symm.trans hd'
    cases List.mem_singleton.1 hg
    decide
  exact ⟨∅, l, _, reach_deleted, hfresh, haccepts, hdesired,
    deleted_not_reused reach_deleted 2 (List.mem_singleton_self 2) l _ hfresh haccepts hdesired⟩

/-- A delayed deploy of generation 1 is accepted after the undeploy with generation 2 has been
reported as deleted. -/
theorem deleted_identifier_reused : ∃ (t : Cluster) (l : Label) (d : DesiredDeployment),
    Reach (reportingStep sampleSettings sampleReader sampleServer sampleId) Free (∅, []) (t, [2]) ∧
    accepts sampleSettings sampleReader sampleServer sampleId t l = true ∧
    l.request.desired sampleSettings sampleReader = some d ∧ d.generation = 1 :=
  ⟨∅, _, _, reach_deleted.free, accepts_deleted le_rfl (by decide),
    desired_samplePost isSample_hello le_rfl (by decide), rfl⟩

end ArchiDeal.Reconciler
