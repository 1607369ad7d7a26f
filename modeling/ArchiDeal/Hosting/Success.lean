import ArchiDeal.Hosting.Desired

/-!
# Success against any controller

`_record_snapshot` compares what the controller reports with the operation, the deployment and its
component rows. Together with what is invariant of those rows this makes success sound whatever the
controller answers: a successful operation has the generation of its deployment, the observed state
is one that the operation wants, and the reported components are those of the release.

* `releaseImages`: the components of a release;
* `Faithful`, `faithful_step`: the component rows are those of the release, and the observed
  generation is at most the current one;
* `perm_of_checkComponents`: what the component check establishes.
-/

namespace ArchiDeal.Hosting

open Transition

variable {settings : Settings} {w w' : World} {l : Label} {i k token : Uuid}
  {o o' : RuntimeOperation}
  {d d' : RuntimeDeployment} {db : Database} {clock : Time} {phase : Phase}

/-! ### The components of a release -/

/-- The slug and the image of an entry of a manifest. -/
def moduleImage (m : Json) : Option (String × String) :=
  match m.get? "slug", m.get? "image" with
  | some (.str slug), some (.str image) => some (slug, image)
  | _, _ => none

/-- The slugs and the images of the modules of a manifest. -/
def releaseImages (manifest : Json) : List (String × String) :=
  match manifest.get? "modules" with
  | some (.arr modules) => modules.filterMap moduleImage
  | _ => []

/-- The component rows of a new deployment are the modules of its release. -/
theorem map_image_of_createComponents {manifest : Json} {scaling : Scaling}
    {components : List RuntimeComponent} (h : createComponents manifest scaling = some components) :
    components.map RuntimeComponent.image = releaseImages manifest := by
  unfold createComponents at h
  split at h
  · rename_i modules hmodules
    have himages : releaseImages manifest = modules.filterMap moduleImage := by
      simp only [releaseImages, hmodules]
    rw [himages]
    refine map_of_mapM (fun m c hc => ?_) h
    split at hc
    · rename_i slug id image hslug _ himage
      obtain ⟨policy, -, hc⟩ := Option.bind_eq_some_iff.1 hc
      cases hc
      simp only [moduleImage, hslug, himage, RuntimeComponent.image]
    · cases hc
  · cases h

def ComponentSnapshot.image (c : ComponentSnapshot) : String × String := (c.slug, c.imageDigest)

theorem checkComponents_eq_ok {components : List RuntimeComponent} {s : RuntimeSnapshot}
    (h : checkComponents components s = .ok ()) :
    (s.state = .deleted ∧ s.components = []) ∨
      (∀ c ∈ s.components, ∃ row ∈ components, row.slug = c.slug) ∧
      (∀ row ∈ components, ∃ c ∈ s.components, c.slug = row.slug) ∧
      ∀ c ∈ s.components, ∀ row ∈ components, row.slug = c.slug →
        row.imageDigest = c.imageDigest := by
  unfold checkComponents at h
  simp only [List.map_eq_nil_iff] at h
  split_ifs at h with hdeleted
  · exact .inl hdeleted
  · obtain ⟨_, hset, h⟩ := bind_eq_ok.1 h
    have hset := ensure_eq_ok.1 hset
    have himage := ensure_eq_ok.1 h
    simp only [List.all_map, Bool.and_eq_true, List.all_eq_true, Function.comp_apply,
      List.contains_eq_mem, List.mem_map, decide_eq_true_eq] at hset
    simp only [List.all_eq_true, Bool.or_eq_true, bne_iff_ne, beq_iff_eq] at himage
    refine .inr ⟨hset.1, hset.2, fun c hc row hrow hslug => ?_⟩
    exact (himage c hc row hrow).resolve_left (not_not.2 hslug)

/-- **The component check.** What passes it is a report of exactly the rows, unless the deployment
is deleted and nothing is reported. -/
theorem perm_of_checkComponents {components : List RuntimeComponent} {s : RuntimeSnapshot}
    (hnodup : (components.map RuntimeComponent.slug).Nodup)
    (h : checkComponents components s = .ok ()) :
    (s.state = .deleted ∧ s.components = []) ∨
      (s.components.map ComponentSnapshot.image).Perm (components.map RuntimeComponent.image) := by
  rcases checkComponents_eq_ok h with hdeleted | ⟨hsub, hsup, himage⟩
  · exact .inl hdeleted
  · refine .inr ((List.perm_ext_iff_of_nodup ?_ ?_).2 fun x => ?_)
    · exact List.Nodup.of_map Prod.fst (by rw [List.map_map]; exact s.nodup)
    · exact List.Nodup.of_map Prod.fst (by rw [List.map_map]; exact hnodup)
    · simp only [List.mem_map]
      constructor
      · rintro ⟨c, hc, rfl⟩
        obtain ⟨row, hrow, hslug⟩ := hsub c hc
        exact ⟨row, hrow, Prod.ext hslug (himage c hc row hrow hslug)⟩
      · rintro ⟨row, hrow, rfl⟩
        obtain ⟨c, hc, hslug⟩ := hsup row hrow
        exact ⟨c, hc, Prod.ext hslug (himage c hc row hrow hslug.symm).symm⟩

/-! ### The invariant -/

/-- The component rows of a deployment are those of its release, and it has not observed more than
it was asked for. -/
structure Faithful (db : Database) (d : RuntimeDeployment) : Prop where
  observed : d.observedGeneration ≤ d.generation
  release : ∃ r, db.releases.lookup d.release = some r ∧
    d.components.map RuntimeComponent.image = releaseImages r.manifest
  nodup : (d.components.map RuntimeComponent.slug).Nodup

theorem image_applyComponent (s : RuntimeSnapshot) (c : RuntimeComponent) :
    (applyComponent s c).image = c.image := by
  unfold applyComponent
  split_ifs
  · rfl
  · split <;> rfl

theorem map_image_applySnapshot (d : RuntimeDeployment) (s : RuntimeSnapshot) (now clock : Time) :
    (applySnapshot d s now clock).components.map RuntimeComponent.image =
      d.components.map RuntimeComponent.image := by
  rw [show (applySnapshot d s now clock).components = d.components.map (applyComponent s) from rfl,
    List.map_map]
  exact List.map_congr_left fun c _ => image_applyComponent s c

theorem Effect.images (h : Effect clock token o d l phase o' d') : d'.release = d.release ∧
    d'.components.map RuntimeComponent.image = d.components.map RuntimeComponent.image := by
  cases h with
  | @record _ s now _ _ _ _ _ _ recorded =>
    have himages := map_image_applySnapshot d s now clock
    cases recorded with
    | waiting => exact ⟨rfl, rfl⟩
    | timedOut => exact ⟨rfl, rfl⟩
    | unwanted => exact ⟨rfl, himages⟩
    | failed => exact ⟨rfl, himages⟩
    | succeeded => exact ⟨rfl, himages⟩
  | keep => exact ⟨rfl, rfl⟩
  | fail => exact ⟨rfl, rfl⟩

/-- A worker never moves the observed generation back, or beyond the target of the operation. -/
theorem Effect.observedGeneration (h : Effect clock token o d l phase o' d') :
    d.observedGeneration ≤ d'.observedGeneration ∧
      (d'.observedGeneration = d.observedGeneration ∨
        o.isLog = false ∧ d'.observedGeneration ≤ o.targetGeneration) := by
  cases h with
  | record mutation le_target le_observed _ recorded =>
    cases recorded with
    | waiting => exact ⟨le_rfl, .inl rfl⟩
    | timedOut => exact ⟨le_rfl, .inl rfl⟩
    | unwanted => exact ⟨le_observed, .inr ⟨mutation, le_target⟩⟩
    | failed => exact ⟨le_observed, .inr ⟨mutation, le_target⟩⟩
    | succeeded => exact ⟨le_observed, .inr ⟨mutation, le_target⟩⟩
  | keep => exact ⟨le_rfl, .inl rfl⟩
  | fail => exact ⟨le_rfl, .inl rfl⟩

theorem Turned.observedGeneration (h : Turned settings w w' k l d d') :
    d.observedGeneration ≤ d'.observedGeneration := by
  cases h with
  | keep => exact le_rfl
  | work _ _ _ _ _ _ effect => exact effect.observedGeneration.1
  | request _ _ _ _ requested => exact requested.observedGeneration.ge

theorem nodup_of_image {a b : List RuntimeComponent}
    (h : b.map RuntimeComponent.image = a.map RuntimeComponent.image)
    (hnodup : (a.map RuntimeComponent.slug).Nodup) : (b.map RuntimeComponent.slug).Nodup := by
  have hslug : b.map RuntimeComponent.slug = a.map RuntimeComponent.slug := by
    have := congrArg (List.map Prod.fst) h
    rwa [List.map_map, List.map_map] at this
  rwa [hslug]

theorem Faithful.turned (hs : Sound w) (hq : w.db.Queue) (h : step settings w l = some w')
    (hd : w.db.deployments.lookup k = some d) (turned : Turned settings w w' k l d d')
    (hf : Faithful w.db d) : Faithful w'.db d' := by
  obtain ⟨hobserved, ⟨r, hr, himages⟩, hnodup⟩ := hf
  have hr' := (keeps_step hs h).releases _ r hr
  cases turned with
  | keep => exact ⟨hobserved, ⟨r, hr', himages⟩, hnodup⟩
  | work found owner active _ _ _ effect =>
    obtain ⟨hrelease, himages'⟩ := effect.images
    refine ⟨?_, ⟨r, hrelease ▸ hr', himages'.trans himages⟩, nodup_of_image himages' hnodup⟩
    rw [effect.generation]
    rcases effect.observedGeneration.2 with heq | ⟨hlog, hle⟩
    · exact heq ▸ hobserved
    · -- the operation is the active one, so that its target is the current generation
      subst owner
      rwa [hq.generation _ _ d found (RuntimeOperation.mutates_eq_true.2 ⟨active, hlog⟩) hd] at hle
  | request _ _ _ _ requested =>
    refine ⟨?_, ⟨r, requested.release ▸ hr', requested.images.trans himages⟩,
      nodup_of_image requested.images hnodup⟩
    rw [requested.observedGeneration, requested.generation]
    exact hobserved.trans (Nat.le_succ _)

theorem faithful_step (hs : Sound w) (hq : w.db.Queue) (h : step settings w l = some w')
    (hf : ∀ k d, w.db.deployments.lookup k = some d → Faithful w.db d) :
    ∀ k d, w'.db.deployments.lookup k = some d → Faithful w'.db d := by
  refine deployments_step hs h hf (fun k d d' hd turned hf => hf.turned hs hq h hd turned) ?_
  intro k id req hash body version env o d' db₁ hd asked writes
  cases asked with
  | create _ released _ built nodup =>
    refine ⟨Nat.zero_le _, ⟨_, ?_, map_image_of_createComponents built⟩, nodup⟩
    rw [writes.releases]
    exact lookup_runtimeReleaseFor released
  | request found => cases hd.symm.trans found

theorem faithful_of_reach {w₀ : World} (h₀ : w₀.Initial) (h : Reach (step settings) Free w₀ w) :
    ∀ k d, w.db.deployments.lookup k = some d → Faithful w.db d := by
  refine h.invariant (fun v => ∀ k d, v.db.deployments.lookup k = some d → Faithful v.db d)
    (fun k d hd => ?_) fun run hf _ next => ?_
  · rw [h₀.deployments] at hd; cases hd
  · exact faithful_step (sound_of_reach h₀ run) (queue_of_reach h₀ run) next hf

/-! ### Success -/

/-- A report that a worker records as the success of operation `i`. -/
structure Succeeds (w w' : World) (i : Uuid) (o : RuntimeOperation) (d : RuntimeDeployment)
    (loaded : Loaded) (s : RuntimeSnapshot) : Prop where
  session : ∃ token, w.sessions.lookup token = some ⟨i, .recording loaded s⟩
  found : w.db.operations.lookup i = some o
  owner : w.db.deployments.lookup o.deployment = some d
  mutates : o.mutates = true
  order : loaded.operation.order = o.order
  saved : ∃ now, w'.db.deployments.lookup o.deployment = some (applySnapshot d s now w.clock)
  components : checkComponents d.components s = .ok ()
  generation : s.observedGeneration = o.targetGeneration
  wanted : s.state ∈ expectedStates (desiredStateOf loaded.operation d)

/-- **Success.** An operation that is not a log becomes successful only by recording a report of its
target generation, in a state that it wants. -/
theorem succeeds_step (hs : Sound w) (h : step settings w l = some w')
    (ho' : w'.db.operations.lookup i = some o') (hlog : o'.isLog = false)
    (hdone : o'.status = .succeeded)
    (hbefore : ∀ o, w.db.operations.lookup i = some o → o.status ≠ .succeeded) :
    ∃ o d loaded s, o'.order = o.order ∧ Succeeds w w' i o d loaded s := by
  cases step_tx hs.owned h with
  | quiet operations => exact absurd hdone (hbefore o' (operations ▸ ho'))
  | @work _ j o p d _ _ found owner did saves =>
    rw [saves.operations] at ho'
    split_ifs at ho' with hi
    · subst hi
      cases ho'
      have horder := did.order
      have hactive := did.isActive hs found
      have hrow := saves.deployments o.deployment
      rw [if_pos (deployment_of_order horder).symm] at hrow
      obtain ⟨token, phase, effect, hsession⟩ := did.effect hs found
      rw [isLog_of_order horder] at hlog
      have hmutates := RuntimeOperation.mutates_eq_true.2 ⟨hactive, hlog⟩
      cases effect with
      | @record loaded s now _ _ _ le_target _ components recorded =>
        -- only recording an answer that has caught up ends an operation so
        obtain ⟨-, hsession⟩ := hsession.resolve_left (by rintro ⟨⟩)
        obtain ⟨_, ha, hf⟩ := hs.attached _ _ _ hsession
        cases ha.symm.trans found
        cases recorded with
        | succeeded caughtUp wanted =>
          exact ⟨o, d, loaded, s, horder, ⟨token, hsession⟩, found, owner, hmutates, hf.1,
            ⟨now, hrow⟩, components, observedGeneration_of_caughtUp le_target caughtUp
              (ne_of_expected wanted).1 (ne_of_expected wanted).2, wanted⟩
        | _ => cases hdone
      | keep log =>
        have hended : o'.isActive = false := by simp [RuntimeOperation.isActive, hdone]
        cases hlog.symm.trans (log hended)
      | fail _ failed => cases failed.symm.trans hdone
    · exact absurd hdone (hbefore o' ho')
  | ask _ _ _ asked _ saves =>
    rw [saves.operations] at ho'
    split_ifs at ho'
    · cases ho'
      cases asked <;> cases hdone
    · exact absurd hdone (hbefore o' ho')

/-- **Success is sound.** Whatever the controller answers: when an operation that is not a log
becomes successful, its deployment has observed its target generation, which is the current one; the
observed state is reported and allowed by the desired state of the operation; and the reported
components are those of the release, unless the deployment is deleted and none is reported. Along
the run the observed generation never decreases, and it never exceeds the current one. -/
theorem success_sound {settings : Settings} {w₀ w : World} (h₀ : w₀.Initial)
    (run : Reach (step settings) Free w₀ w) :
    (∀ l w' i o', step settings w l = some w' → w'.db.operations.lookup i = some o' →
      o'.isLog = false → o'.status = .succeeded →
      (∀ o, w.db.operations.lookup i = some o → o.status ≠ .succeeded) →
      ∃ token loaded s d' r desired, w.sessions.lookup token = some ⟨i, .recording loaded s⟩ ∧
        w'.db.deployments.lookup o'.deployment = some d' ∧
        w'.db.releases.lookup d'.release = some r ∧
        d'.observedGeneration = o'.targetGeneration ∧ o'.targetGeneration = d'.generation ∧
        o'.payload.desiredState = some desired ∧ d'.observedState = s.state ∧
        ((desired = .running ∧ (s.state = .running ∨ s.state = .degraded)) ∨
          (desired = .stopped ∧ s.state = .stopped) ∨ (desired = .absent ∧ s.state = .deleted)) ∧
        ((s.components.map ComponentSnapshot.image).Perm (releaseImages r.manifest) ∨
          (s.state = .deleted ∧ s.components = []))) ∧
    (∀ w' k d, Reach (step settings) Free w w' → w.db.deployments.lookup k = some d →
      ∃ d', w'.db.deployments.lookup k = some d' ∧
        d.observedGeneration ≤ d'.observedGeneration ∧ d'.observedGeneration ≤ d'.generation) := by
  have hs := sound_of_reach h₀ run
  refine ⟨fun l w' i o' h ho' hlog hdone hbefore => ?_, fun w' k d later hd => ?_⟩
  · obtain ⟨o, d, loaded, s, horder, hsucc⟩ := succeeds_step hs h ho' hlog hdone hbefore
    obtain ⟨token, hsession⟩ := hsucc.session
    obtain ⟨now, hsaved⟩ := hsucc.saved
    obtain ⟨-, ⟨r, hr, himages⟩, hnodup⟩ := faithful_of_reach h₀ run _ d hsucc.owner
    -- the queue and the wishes are aligned, so that the check was made for what is wanted now
    have hgeneration := (queue_of_reach h₀ run).generation i o d hsucc.found hsucc.mutates
      hsucc.owner
    have hdesired := (aligned_of_reach h₀ run).wanted i o d hsucc.found hsucc.mutates hsucc.owner
    have hwanted : s.state ∈ expectedStates d.desiredState := by
      have := hsucc.wanted
      rwa [desiredStateOf, payload_of_order hsucc.order, hdesired] at this
    refine ⟨token, loaded, s, applySnapshot d s now w.clock, r, d.desiredState, hsession,
      deployment_of_order horder ▸ hsaved, (keeps_step hs h).releases _ r hr,
      targetGeneration_of_order horder ▸ hsucc.generation,
      targetGeneration_of_order horder ▸ hgeneration,
        payload_of_order horder ▸ hdesired, rfl, ?_, ?_⟩
    · cases hd : d.desiredState <;> rw [hd] at hwanted <;> simpa [expectedStates] using hwanted
    · rcases perm_of_checkComponents hnodup hsucc.components with hdeleted | hperm
      · exact .inr hdeleted
      · exact .inl (himages ▸ hperm)
  · -- a turn never lowers the observed generation
    have hmono : ∃ d', w'.db.deployments.lookup k = some d' ∧
        d.observedGeneration ≤ d'.observedGeneration := by
      refine later.invariant (fun v => ∃ d', v.db.deployments.lookup k = some d' ∧
        d.observedGeneration ≤ d'.observedGeneration) ⟨d, hd, le_rfl⟩ ?_
      rintro a l b hrun ⟨d', hd', hle⟩ - next
      obtain ⟨d'', hd'', turned⟩ := turned_step (sound_of_reach h₀ (run.trans hrun)) next hd'
      exact ⟨d'', hd'', hle.trans turned.observedGeneration⟩
    obtain ⟨d', hd', hle⟩ := hmono
    exact ⟨d', hd', hle, (faithful_of_reach h₀ (run.trans later) k d' hd').observed⟩

/-- The sample deployment succeeds. -/
theorem success_sound_sample :
    ∃ w w' o', runLabels (step sampleSettings) Free deployedWorld (sampleDeploy.take 3) = some w ∧
      step sampleSettings w (.record 10 0) = some w' ∧ w'.db.operations.lookup 2 = some o' ∧
      o'.status = .succeeded ∧ ∃ d', w'.db.deployments.lookup o'.deployment = some d' ∧
        d'.observedGeneration = o'.targetGeneration ∧ o'.targetGeneration = d'.generation := by
  have hrun : (runLabels (step sampleSettings) Free deployedWorld (sampleDeploy.take 3)).any
    (fun w =>
      (step sampleSettings w (.record 10 0)).any fun w' =>
        (w'.db.operations.lookup 2).any fun o' => o'.isLog = false ∧ o'.status = .succeeded ∧
          (w.db.operations.lookup 2).all fun o => o.status ≠ .succeeded) = true := by
    decide +kernel
  obtain ⟨w, hw, hrun⟩ := (Option.any_eq_true _ _).1 hrun
  obtain ⟨w', hw', hrun⟩ := (Option.any_eq_true _ _).1 hrun
  obtain ⟨o', ho', hrun⟩ := (Option.any_eq_true _ _).1 hrun
  obtain ⟨hlog, hdone, hbefore⟩ := of_decide_eq_true hrun
  have run := (reach_deployedWorld trivial trivial trivial).trans (reach_of_runLabels hw)
  obtain ⟨token, loaded, s, d', r, desired, -, hd', -, hobserved, htarget, -⟩ :=
    (success_sound initial_sampleWorld run).1 (.record 10 0) w' 2 o' hw' ho' hlog hdone
      (by simpa [Option.all_eq_true] using hbefore)
  exact ⟨w, w', o', hw, hw', ho', hdone, d', hd', hobserved, htarget⟩

end ArchiDeal.Hosting
