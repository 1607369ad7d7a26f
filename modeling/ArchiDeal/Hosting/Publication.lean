import ArchiDeal.Hosting.Revision

/-!
# Published versions

`publish_immutable_version` and `runtime_release_for` beside every other action of the system: the
catalogue keeps changing, and what was published of it does not.

* `Published`, `published_step`: a step keeps every version that has a runtime snapshot, and the
  unique constraints of versions and releases;
* `Belongs`, `belongs_of_reach`: the release of a deployment is one of a version of its application;
* `publication_immutable`: along a run, deployments of one version have one manifest and the same
  images.
-/

namespace ArchiDeal.Hosting

open Transition

variable {settings : Settings} {w w' : World} {l : Label} {k : Uuid} {d d' : RuntimeDeployment}
  {db db' : Database}

/-- The fields of `unique_together`. -/
def ApplicationVersion.number (v : ApplicationVersion) : ℕ × String := (v.application, v.version)

/-- The constraints of the two tables: one version for a number, one release for a version. -/
structure Database.Constrained (db : Database) : Prop where
  versions : db.versions.Unique ApplicationVersion.number
  releases : db.releases.Unique RuntimeRelease.applicationVersion

/-! ### One step -/

/-- A version that has a runtime snapshot is kept as it is, and so are the constraints. -/
structure Published (db db' : Database) : Prop where
  frozen : ∀ i v, db.versions.lookup i = some v → v.runtimeSnapshot.truthy = true →
    db'.versions.lookup i = some v
  unique : db.Constrained → db'.Constrained

theorem Published.of_eq (hr : db'.releases = db.releases) (hv : db'.versions = db.versions) :
    Published db db' :=
  ⟨fun _ _ h _ => hv ▸ h, fun h => ⟨hv ▸ h.versions, hr ▸ h.releases⟩⟩

theorem Published.trans {db₁ db₂ db₃ : Database} (h : Published db₁ db₂) (h' : Published db₂ db₃) :
    Published db₁ db₃ where
  frozen i v hv hs := h'.frozen i v (h.frozen i v hv hs) hs
  unique hu := h'.unique (h.unique hu)

section Release

variable {engine : Engine} {appId vid : ℕ} {app : HostedApplication} {version : String}
  {env : RuntimeEnvironment} {v : ApplicationVersion} {manifest : Json}

theorem published_materializeSnapshot {x : Except ReleaseException ApplicationVersion}
    (hv : db.versions.lookup vid = some v)
    (h : materializeSnapshot engine db appId app vid v = (x, db')) :
    Published db db' ∧ db'.releases = db.releases := by
  unfold materializeSnapshot at h
  split_ifs at h with hlegacy
  · split at h
    · cases h; exact ⟨.of_eq rfl rfl, rfl⟩
    · cases h
      refine ⟨⟨fun i u hu hs => ?_, fun hu => ⟨hu.versions.insert fun j u hj hn => ?_,
        hu.releases⟩⟩, rfl⟩
      · -- the row that is rewritten has no snapshot
        rw [Table.lookup_insert_eq, if_neg, hu]
        rintro rfl
        cases hv.symm.trans hu
        simp [ApplicationVersion.legacy, hs] at hlegacy
      · exact hu.versions j vid u v hj hv hn
  · cases h; exact ⟨.of_eq rfl rfl, rfl⟩

theorem published_createRelease {x : Except ReleaseException (ℕ × RuntimeRelease)}
    (hfree : db.releases.find (fun _ r => r.applicationVersion == vid) = none)
    (h : createRelease db appId vid v manifest = (x, db')) : Published db db' := by
  unfold createRelease at h
  simp only at h
  split_ifs at h
  · cases h; exact .of_eq rfl rfl
  · cases h
    refine ⟨fun _ _ hv _ => hv, fun hu => ⟨hu.versions, hu.releases.insert fun j r hj hr => ?_⟩⟩
    exact absurd hr (by simpa using Table.find_eq_none.1 hfree j r hj)

theorem published_runtimeReleaseFor {x : Except ReleaseException (ℕ × RuntimeRelease)}
    (h : runtimeReleaseFor engine db appId app version env = (x, db')) : Published db db' := by
  unfold runtimeReleaseFor at h
  split at h
  · cases h; exact .of_eq rfl rfl
  rename_i vid v hfind
  split at h
  · cases h; exact .of_eq rfl rfl
  rename_i hfree
  split at h
  · rename_i hmat
    cases h
    exact (published_materializeSnapshot (Table.lookup_of_find hfind).1 hmat).1
  · rename_i hmat
    obtain ⟨hpub, hr⟩ := published_materializeSnapshot (Table.lookup_of_find hfind).1 hmat
    split at h
    · cases h; exact hpub
    · exact hpub.trans (published_createRelease (hr ▸ hfree) h)

/-- The release that is returned belongs to a version with the number that was asked for. -/
theorem number_runtimeReleaseFor {release : ℕ × RuntimeRelease}
    (h : runtimeReleaseFor engine db appId app version env = (.ok release, db')) :
    ∃ v, db'.versions.lookup release.2.applicationVersion = some v ∧ v.number =
      (appId, version) := by
  have hkeeps := (released_runtimeReleaseFor h).toKeeps
  unfold runtimeReleaseFor at h
  split at h
  · cases h
  rename_i vid v hfind
  obtain ⟨hv, hp⟩ := Table.lookup_of_find hfind
  have hvid : release.2.applicationVersion = vid := by
    split at h
    · rename_i hrel
      obtain ⟨hx, -⟩ := Prod.mk.inj h
      obtain ⟨_, -, hx⟩ := bind_eq_ok.1 hx
      obtain ⟨_, -, hx⟩ := bind_eq_ok.1 hx
      cases hx
      simpa using (Table.lookup_of_find hrel).2
    split at h
    · cases h
    split at h
    · cases h
    unfold createRelease at h
    simp only at h
    split_ifs at h
    · cases h
    · obtain ⟨_, -, rfl⟩ := map_eq_ok.1 (Prod.mk.inj h).1
      rfl
  obtain ⟨v', hv', ha, hn⟩ := hkeeps.versions vid v hv
  simp only [Bool.and_eq_true, beq_iff_eq] at hp
  exact ⟨v', hvid ▸ hv', Prod.ext (ha.trans hp.1) (hn.trans hp.2)⟩

end Release

theorem Called.published (h : Called db db') : Published db db' := by
  cases h with
  | skip => exact .of_eq rfl rfl
  | call h => exact published_runtimeReleaseFor h

theorem published_applyEdit {engine : Engine} {e : Edit} (h : applyEdit engine db e = some db') :
    Published db db' := by
  cases e with
  | application => cases h; exact .of_eq rfl rfl
  | module => cases h; exact .of_eq rfl rfl
  | environment => cases h; exact .of_eq rfl rfl
  | publish =>
    obtain ⟨app, snapshot, -, hfree, rfl⟩ := of_publish_eq_some h
    refine ⟨fun i v hv _ => Table.lookup_insert_of_new (Table.lookup_nextKey _) hv,
      fun hu => ⟨hu.versions.insert fun j v hj hn => ?_, hu.releases⟩⟩
    have := Table.any_eq_false.1 hfree j v hj
    simp only [ApplicationVersion.number, Prod.mk.injEq] at hn
    simp [hn.1, hn.2] at this

/-- **A step keeps what was published.** -/
theorem published_step (hs : Sound w) (h : step settings w l = some w') :
    Published w.db w'.db := by
  cases step_change hs.owned h with
  | edit edited => exact published_applyEdit edited
  | @session _ _ s _ _ _ moved =>
    obtain ⟨i, phase⟩ := s
    cases moved with
    | write _ _ _ _ writes => exact .of_eq writes.releases writes.versions
    | _ => exact .of_eq rfl rfl
  | refuse _ returned => exact (called_of_returned returned).published
  | accept _ _ _ asked _ writes =>
    exact asked.called.published.trans (.of_eq writes.releases writes.versions)
  | _ => exact .of_eq rfl rfl

/-! ### Runs -/

theorem published_of_reach {w₀ : World} (h₀ : w₀.Initial) (run : Reach (step settings) Free w₀ w)
    (later : Reach (step settings) Free w w') : Published w.db w'.db ∧ Keeps w.db w'.db := by
  refine later.related (fun a b => Published a.db b.db ∧ Keeps a.db b.db)
    (fun _ => ⟨.of_eq rfl rfl, .of_eq rfl rfl⟩) ?_ ?_
  · intro a b c h h'
    exact ⟨h.1.trans h'.1, h.2.trans h'.2⟩
  · intro a l b hrun _ next
    have hs := sound_of_reach h₀ (run.trans hrun)
    exact ⟨published_step hs next, keeps_step hs next⟩

/-- The release of a deployment is one of a version of its application. -/
def Belongs (db : Database) (d : RuntimeDeployment) : Prop :=
  ∃ r v, db.releases.lookup d.release = some r ∧
    db.versions.lookup r.applicationVersion = some v ∧ v.application = d.application

theorem Belongs.of_keeps (hk : Keeps db db') (hr : d'.release = d.release)
    (ha : d'.application = d.application) (h : Belongs db d) : Belongs db' d' := by
  obtain ⟨r, v, hrel, hv, happ⟩ := h
  obtain ⟨v', hv', happ', -⟩ := hk.versions _ v hv
  exact ⟨r, v', hr ▸ hk.releases _ r hrel, hv', happ'.trans (happ.trans ha.symm)⟩

theorem Effect.application {clock : Time} {token : Uuid} {o o' : RuntimeOperation} {phase : Phase}
    (h : Effect clock token o d l phase o' d') : d'.application = d.application := by
  cases h with
  | record _ _ _ _ recorded => cases recorded <;> rfl
  | keep => rfl
  | fail => rfl

theorem belongs_step (hs : Sound w) (h : step settings w l = some w')
    (hb : ∀ k d, w.db.deployments.lookup k = some d → Belongs w.db d) :
    ∀ k d, w'.db.deployments.lookup k = some d → Belongs w'.db d := by
  have hk := keeps_step hs h
  refine deployments_step hs h hb (fun k d d' _ turned hb => ?_) ?_
  · cases turned with
    | keep => exact hb.of_keeps hk rfl rfl
    | work _ _ _ _ _ _ effect => exact hb.of_keeps hk effect.images.1 effect.application
    | request _ _ _ _ requested => exact hb.of_keeps hk requested.release requested.application
  · intro k id req hash body version env o d' db₁ hd asked writes
    cases asked with
    | create _ released =>
      obtain ⟨v, hv, hn⟩ := number_runtimeReleaseFor released
      refine ⟨_, v, ?_, writes.versions ▸ hv, congrArg Prod.fst hn⟩
      rw [writes.releases]
      exact lookup_runtimeReleaseFor released
    | request found => cases hd.symm.trans found

theorem belongs_of_reach {w₀ : World} (h₀ : w₀.Initial) (h : Reach (step settings) Free w₀ w) :
    ∀ k d, w.db.deployments.lookup k = some d → Belongs w.db d := by
  refine h.invariant (fun v => ∀ k d, v.db.deployments.lookup k = some d → Belongs v.db d)
    (fun k d hd => ?_) fun run hb _ next => belongs_step (sound_of_reach h₀ run) next hb
  rw [h₀.deployments] at hd
  cases hd

theorem release_of_version (hu : db.Constrained) {r r' : RuntimeRelease} {v v' : ApplicationVersion}
    (hr : db.releases.lookup d.release = some r) (hr' : db.releases.lookup d'.release = some r')
    (hv : db.versions.lookup r.applicationVersion = some v)
    (hv' : db.versions.lookup r'.applicationVersion = some v') (hn : v.number = v'.number) :
    r = r' := by
  have hversion := hu.versions _ _ v v' hv hv' hn
  have hrelease := hu.releases _ _ r r' hr hr' hversion
  rw [hrelease] at hr
  exact Option.some.inj (hr.symm.trans hr')

theorem Database.releaseVersion_eq {n : ℕ} {r : RuntimeRelease} {v : ApplicationVersion}
    (hr : db.releases.lookup n = some r) (hv : db.versions.lookup r.applicationVersion = some v) :
    db.releaseVersion n = some v.version := by
  simp [Database.releaseVersion, hr, hv]

/-- **Publication is immutable.** From a database whose versions satisfy their constraint, whatever
happens: a number of an application never has two versions; a version that has a runtime snapshot
keeps it, with its digest, its notes and its source; and two deployments of one version of an
application, at whatever moments of the run they are seen, have the same release, with its manifest
and digest, and the same images. -/
theorem publication_immutable {settings : Settings} {w₀ w w' : World} (h₀ : w₀.Initial)
    (hnumber : w₀.db.versions.Unique ApplicationVersion.number)
    (run : Reach (step settings) Free w₀ w) (later : Reach (step settings) Free w w') :
    w'.db.versions.Unique ApplicationVersion.number ∧
    (∀ i v, w.db.versions.lookup i = some v → v.runtimeSnapshot.truthy = true →
      w'.db.versions.lookup i = some v) ∧
    ∀ k k' d d', w.db.deployments.lookup k = some d → w'.db.deployments.lookup k' = some d' →
      d.application = d'.application →
      w.db.releaseVersion d.release = w'.db.releaseVersion d'.release →
      ∃ release, w.db.releases.lookup d.release = some release ∧
        w'.db.releases.lookup d'.release = some release ∧
        d.components.map RuntimeComponent.image = d'.components.map RuntimeComponent.image := by
  obtain ⟨hpub, hkeeps⟩ := published_of_reach h₀ run later
  have hunique : w'.db.Constrained := by
    refine (published_of_reach h₀ .refl (run.trans later)).1.unique ⟨hnumber, fun i _ r _ hr => ?_⟩
    rw [h₀.releases] at hr
    cases hr
  refine ⟨hunique.versions, hpub.frozen, fun k k' d d' hd hd' happ hversion => ?_⟩
  obtain ⟨r, v, hr, hv, hva⟩ := belongs_of_reach h₀ run k d hd
  obtain ⟨r', v', hr', hv', hva'⟩ := belongs_of_reach h₀ (run.trans later) k' d' hd'
  -- both releases are seen in the later state, where the constraints identify them
  obtain ⟨u, hu, hua, hun⟩ := hkeeps.versions _ v hv
  rw [Database.releaseVersion_eq hr hv, Database.releaseVersion_eq hr' hv', Option.some.injEq]
    at hversion
  have hn : u.number = v'.number :=
    Prod.ext (hua.trans (hva.trans (happ.trans hva'.symm))) (hun.trans hversion)
  cases release_of_version hunique (hkeeps.releases _ r hr) hr' hu hv' hn
  obtain ⟨s, hs, himages⟩ := (faithful_of_reach h₀ run k d hd).release
  obtain ⟨s', hs', himages'⟩ := (faithful_of_reach h₀ (run.trans later) k' d' hd').release
  cases hr.symm.trans hs
  cases hr'.symm.trans hs'
  exact ⟨r, hr, hr', himages.trans himages'.symm⟩

/-- The catalogue changes, and the sample version is deployed once more. -/
def redeploy : List Label :=
  [.edit (.application 1 ⟨"App", "renamed", [7], "1.0.0", true, 2⟩),
    .edit (.environment "staging" sampleEnvironment),
    .begin 1 { sampleCreate with
      endpoint := .create (.ok { sampleBody with environment := "staging" })
      idempotencyKey := some "create-2"
      ifMatch := some "\"2\"" },
    .enter 1, .transact 1 5 6]

/-- The second deployment has the release and the images of the first. -/
theorem publication_immutable_redeploy :
    ∃ w' d' release, runLabels (step sampleSettings) Free deployedWorld redeploy = some w' ∧
      w'.db.deployments.lookup 5 = some d' ∧
      deployedWorld.db.releases.lookup 1 = some release ∧
      w'.db.releases.lookup d'.release = some release ∧
      [("api", sampleImage)] = d'.components.map RuntimeComponent.image := by
  have hrun : (runLabels (step sampleSettings) Free deployedWorld redeploy).any (fun w' =>
      (w'.db.deployments.lookup 5).any fun d' =>
        d'.application == 1 && w'.db.releaseVersion d'.release == some "1.0.0") = true := by
    decide +kernel
  obtain ⟨w', hw', h⟩ := (Option.any_eq_true _ _).1 hrun
  obtain ⟨d', hd', h⟩ := (Option.any_eq_true _ _).1 h
  simp only [Bool.and_eq_true, beq_iff_eq] at h
  have hnumber : sampleWorld.db.versions.Unique ApplicationVersion.number := by
    refine Table.Unique.insert (fun i _ a _ ha => ?_) fun j a ha => ?_ <;> cases ha
  obtain ⟨release, hr, hr', himages⟩ := (publication_immutable initial_sampleWorld hnumber
    (reach_deployedWorld trivial trivial trivial) (reach_of_runLabels hw')).2.2 1 5
    sampleDeployment d' (by decide) hd' h.1.symm (Eq.trans (by decide) h.2.symm)
  exact ⟨w', d', release, hw', hd', hr, hr', himages⟩

end ArchiDeal.Hosting
