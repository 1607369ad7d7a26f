import ArchiDeal.Reconciler.Requests

/-!
# Runs in fine weather

A `POST` that passes the checks is accepted when no call is lost (`accepts_create`).
-/

namespace ArchiDeal.Reconciler

open Text Hosting Calls Json
open Prog (Only only_invoke only_lift)

variable {settings : ControllerSettings} {py : FloatReader} {api : ApiServer}
  {collectable : Resource → Bool} {d : DesiredDeployment} {id : String} {s : Cluster} {k : Key}
  {log : List Call} {slug : Option String}

theorem run_readState (h : ∀ r, s.content (stateKey settings id) = some r → ownedBy id r = true) :
    (readState settings id).run (tracked api collectable) [] (s, log) =
      (.returned (s.content (stateKey settings id)), (s, log)) := by
  have hget : (kubeGet (stateKey settings id)).run (tracked api collectable) [] (s, log) =
      (.returned (s.content (stateKey settings id)), (s, log)) := rfl
  refine (Prog.run_bind_nil hget).trans ?_
  cases hcontent : s.content (stateKey settings id) with
  | none => rfl
  | some r =>
    simp only [h r hcontent, if_true]
    rfl

theorem run_deletes (api : ApiServer) (collectable : Resource → Bool) (s : Cluster)
    (log : List Call)
    (ps : List (Key × Resource)) : ∃ t : Tracked,
    (Prog.each (fun p : Key × Resource =>
      if isTombstone p.1 p.2 then kubeDelete p.1 else pure ()) ps).run (tracked api collectable) []
        (s, log) = (.returned (), t) ∧ ∀ k, t.1.content k = s.content k := by
  induction ps generalizing s log with
  | nil => exact ⟨(s, log), rfl, fun _ => rfl⟩
  | cons p ps ih =>
    by_cases htombstone : isTombstone p.1 p.2 = true
    · obtain ⟨t, ht, hcontent⟩ := ih (s.delete p.1) (log ++ [.delete p.1])
      refine ⟨t, ?_, fun k => (hcontent k).trans content_delete⟩
      refine (Prog.run_bind_nil (t := (s.delete p.1, log ++ [.delete p.1])) (a := ()) ?_).trans ht
      simp only [if_pos htombstone]
      rfl
    · obtain ⟨t, ht, hcontent⟩ := ih s log
      refine ⟨t, ?_, hcontent⟩
      refine (Prog.run_bind_nil (t := (s, log)) (a := ()) ?_).trans ht
      simp only [if_neg htombstone]
      rfl

theorem run_cleanup (settings : ControllerSettings) (api : ApiServer)
    (collectable : Resource → Bool)
    (s : Cluster) (log : List Call) : ∃ t : Tracked,
    (cleanupLegacyTombstones settings).run (tracked api collectable) [] (s, log) =
      (.returned (), t) ∧ ∀ k, t.1.content k = s.content k := by
  obtain ⟨t, ht, hcontent⟩ := run_deletes api collectable s log
    (s.select settings.namespaceName .configMap [(managedByLabel, managedBy)])
  exact ⟨t, (Prog.run_bind_nil (t := (s, log)) rfl).trans ht, hcontent⟩

theorem run_assertOwned (h : ∀ r, s.content k = some r → isOurs d slug r = true) :
    (assertOwned d k slug).run (tracked api collectable) [] (s, log) =
      (.returned (s.content k).isSome, (s, log)) := by
  have hget : (kubeGet k).run (tracked api collectable) [] (s, log) =
      (.returned (s.content k), (s, log)) := rfl
  refine (Prog.run_bind_nil hget).trans ?_
  cases hcontent : s.content k with
  | none => rfl
  | some r =>
    simp only [h r hcontent, if_true]
    rfl

theorem run_assertOwnedKeys {ks : List (Key × String)}
    (h : ∀ p ∈ ks, ∀ r, s.content p.1 = some r → isOurs d (some p.2) r = true) :
    ∃ found, (assertOwnedKeys d ks).run (tracked api collectable) [] (s, log) =
      (.returned found, (s, log)) := by
  induction ks with
  | nil => exact ⟨false, rfl⟩
  | cons p ks ih =>
    rw [List.forall_mem_cons] at h
    obtain ⟨found, hfound⟩ := ih h.2
    exact ⟨_, (Prog.run_bind_nil (run_assertOwned h.1)).trans
      ((Prog.run_bind_nil hfound).trans rfl)⟩

theorem run_assertOwnedResources (api : ApiServer) (collectable : Resource → Bool)
    (log : List Call)
    (hstate : ∀ r, s.content (stateKey settings d.deploymentId) = some r → isOurs d none r = true)
    (htargets : ∀ p ∈ targets settings d, ∀ r, s.content p.1 = some r →
      isOurs d (some p.2) r = true) :
    ∃ found, (assertOwnedResources settings d).run (tracked api collectable) [] (s, log) =
      (.returned found, (s, log)) := by
  obtain ⟨found, hfound⟩ := run_assertOwnedKeys htargets
  exact ⟨_, (Prog.run_bind_nil (run_assertOwned hstate)).trans
    ((Prog.run_bind_nil hfound).trans rfl)⟩

theorem applies_run {α : Type} {p : Run α} {t : Tracked} {ws : List (Weather Drift)}
    (h : applies k t.2 = true) :
    applies k (p.run (tracked api collectable) ws t).2.2 = true := by
  have honly : p.Only fun _ => True := by
    induction p with
    | pure | fail => trivial
    | call c next ih => exact ⟨trivial, ih⟩
  have heffect : ∀ c t, True → applies k t.2 = true →
      applies k ((tracked api collectable).effect c t).2 = true := by
    intro c t _ ht
    show applies k (if c.isWrite then t.2 ++ [c] else t.2) = true
    split_ifs
    · rw [applies_append, ht, Bool.true_or]
    · exact ht
  have hdrift : Prog.Stable (tracked api collectable) (fun _ => True)
      fun t => applies k t.2 = true := fun _ _ _ h => h
  exact (honly.triple hdrift heffect).run_always h fun _ _ _ _ => trivial

theorem ne_stateKey_of_mem_targets {id slug : String} (h : (k, slug) ∈ targets settings d) :
    k ≠ stateKey settings id := by
  simp only [targets, componentKeys, List.mem_flatMap, List.mem_map, Prod.mk.injEq] at h
  obtain ⟨c, -, k', hk', rfl, -⟩ := h
  simp only [List.mem_cons, List.not_mem_nil, or_false] at hk'
  rcases hk' with rfl | rfl | rfl | rfl
  · exact componentKey_ne_stateKey (by decide) _ _ _
  · exact componentKey_ne_stateKey (by decide) _ _ _
  · exact componentKey_ne_stateKey (by decide) _ _ _
  · exact configKey_ne_stateKey _ _ _

/-! ### Deploying -/

/-- **The checks of an admissible deployment pass**, and leave every object as it is. -/
theorem run_preflight (hsecrets : requiredSecrets d = [])
    (hstate : ∀ r, s.content (stateKey settings d.deploymentId) = some r → isOurs d none r = true)
    (htargets : ∀ p ∈ targets settings d, ∀ r, s.content p.1 = some r →
      isOurs d (some p.2) r = true) :
    ∃ t : Tracked, (preflight settings py d).run (tracked api collectable) [] (s, log) =
      (.returned (), t) ∧ ∀ k, t.1.content k = s.content k := by
  obtain ⟨⟨s', log'⟩, hcleanup, hcontent⟩ := run_cleanup settings api collectable s log
  have hsecret : (validateSecretCatalog settings py d).run (tracked api collectable) [] (s', log') =
      (.returned (), (s', log')) := by
    rw [validateSecretCatalog, hsecrets]
    rfl
  obtain ⟨found, howned⟩ := run_assertOwnedResources api collectable log'
    (fun r hr => hstate r (hcontent _ ▸ hr)) fun p hp r hr => htargets p hp r (hcontent _ ▸ hr)
  refine ⟨(s', log'), ?_, hcontent⟩
  rw [preflight, Prog.run_bind_nil hcleanup, Prog.run_bind_nil hsecret, Prog.run_bind_nil howned]
  rfl

theorem applies_reconcile {requestId restartRequest : String} (hsecrets : requiredSecrets d = [])
    (hstate : ∀ r, s.content (stateKey settings d.deploymentId) = some r → isOurs d none r = true)
    (htargets : ∀ p ∈ targets settings d, ∀ r, s.content p.1 = some r →
      isOurs d (some p.2) r = true) :
    applies (stateKey settings d.deploymentId)
      ((reconcile settings py d requestId restartRequest).run (tracked api collectable) []
        (s, log)).2.2 = true := by
  obtain ⟨⟨s', log'⟩, hpreflight, -⟩ := run_preflight hsecrets hstate htargets
  have happly : (kubeApply (stateKey settings d.deploymentId)
      (stateConfigMap d .reconciling requestId)).run (tracked api collectable) [] (s', log') =
      (.returned (), (s'.apply api (stateKey settings d.deploymentId)
        (stateConfigMap d .reconciling requestId), log' ++ [.apply _ _])) := rfl
  rw [reconcile, Prog.run_bind_nil hpreflight, Prog.run_bind_nil happly]
  refine applies_run ?_
  simp [applies]

/-- The objects that are there pass the checks of the deployment. -/
structure Admissible (settings : ControllerSettings) (py : FloatReader) (d : DesiredDeployment)
    (s : Cluster) : Prop where
  secrets : requiredSecrets d = []
  state : ∀ r, s.content (stateKey settings d.deploymentId) = some r →
    isOurs d none r = true ∧ admitDeploy settings py d r = .ok ()
  targets : ∀ p ∈ targets settings d, ∀ r, s.content p.1 = some r → isOurs d (some p.2) r = true

theorem Admissible.owned (h : Admissible settings py d s) :
    ∀ r, s.content (stateKey settings d.deploymentId) = some r → ownedBy d.deploymentId r =
      true := by
  intro r hr
  have hours := (h.state r hr).1
  simp only [isOurs, Bool.and_eq_true] at hours
  exact hours.1.1

theorem program_create {body requestId : String} (hd : desiredBody settings py false body = .ok d) :
    (Request.create body).program settings py id requestId =
      deployUnlocked settings py d requestId false "" := by
  simp only [Request.program, hd]
  rfl

/-- **An admissible `POST` is accepted in fine weather.** -/
theorem accepts_create {body requestId : String} (hd : desiredBody settings py false body = .ok d)
    (h : Admissible settings py d s) :
    accepts settings py api d.deploymentId s ⟨.create body, requestId, []⟩ = true := by
  have hon : (Request.create body).isOn settings py d.deploymentId = true := by
    simp [Request.isOn, hd]
  have hreconcile : applies (stateKey settings d.deploymentId)
      ((reconcile settings py d requestId "").run (tracked api fun _ => true) [] (s, [])).2.2 =
        true :=
    applies_reconcile h.secrets (fun r hr => (h.state r hr).1) h.targets
  have hserve : applies (stateKey settings d.deploymentId)
      ((deployUnlocked settings py d requestId false "").run (tracked api fun _ => true) []
        (s, [])).2.2 = true := by
    rw [deployUnlocked, Prog.run_bind_nil (run_readState h.owned)]
    cases hcontent : s.content (stateKey settings d.deploymentId) with
    | none => exact hreconcile
    | some r =>
      simp only [(h.state r hcontent).2]
      exact hreconcile
  simp only [accepts, Request.deploys, hon, serve, program_create hd, hserve, Bool.and_self]

/-! ### Requests of the sample -/

/-- An API server that takes what is applied and keeps the status. -/
def sampleServer : ApiServer where
  applied old r := { r with status := (old.map (·.status)).getD .null }
  labels_applied _ _ _ _ h := h
  annotations_applied _ _ _ _ h := h
  data_applied _ _ _ _ h := h

/-- The `POST` of the running deployment. -/
def samplePost (generation : ℕ) (value requestId : String) (weather : List (Weather Drift)) :
    Label :=
  ⟨.create (bodyOf (samplePayload generation .running "web" value)), requestId, weather⟩

section Sample

variable {value requestId : String} {generation : ℕ} {weather : List (Weather Drift)}

theorem desiredBody_running (h : IsSample "web" value) (hpositive : 1 ≤ generation)
    (hgeneration : generation ≤ 3) :
    desiredBody sampleSettings sampleReader false
      (bodyOf (samplePayload generation .running "web" value)) =
      .ok (sampleDesired generation .running "web" value) :=
  desiredBody_sample h hpositive hgeneration (by rintro ⟨⟩)

theorem desired_samplePost (h : IsSample "web" value) (hpositive : 1 ≤ generation)
    (hgeneration : generation ≤ 3) :
    (samplePost generation value requestId weather).request.desired sampleSettings sampleReader =
      some (sampleDesired generation .running "web" value) := by
  simp only [samplePost, Request.desired, desiredBody_running h hpositive hgeneration]
  rfl

theorem accepts_samplePost (h : IsSample "web" value) (hpositive : 1 ≤ generation)
    (hgeneration : generation ≤ 3) (hs : Admissible sampleSettings sampleReader
      (sampleDesired generation .running "web" value) s) :
    accepts sampleSettings sampleReader sampleServer sampleId s
      (samplePost generation value requestId []) = true :=
  accepts_create (d := sampleDesired generation .running "web" value)
    (desiredBody_running h hpositive hgeneration) hs

end Sample

end ArchiDeal.Reconciler
