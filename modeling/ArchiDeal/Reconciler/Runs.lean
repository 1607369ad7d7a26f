import ArchiDeal.Reconciler.Record
import ArchiDeal.Reconciler.Refusals

/-!
# Runs and the state object

What a whole run does to the state object of its deployment, whatever calls fail. The argument is
the same for every property of the record: before the request is admitted nothing writes the state
object, and afterwards only records of the admitted deployment are written. `deploy_triple` and
`undeploy_triple` say so for an arbitrary property `Inv` of the record.
-/

namespace ArchiDeal.Reconciler

open Text Hosting Calls Json
open Prog (Only only_invoke only_lift)

variable {settings : ControllerSettings} {py : FloatReader} {api : ApiServer}
  {collectable : Resource → Bool} {ok : Drift → Prop} {d d' : DesiredDeployment} {id : String}
  {s : Cluster} {k : Key}

/-! ### Calls -/

/-- Does the call change the cluster? -/
def Call.isWrite : Call → Bool
  | .apply _ _ | .delete _ => true
  | .get _ | .list _ _ _ => false

/-- The call does not apply the object `k`. -/
def Quiet (k : Key) : Call → Prop
  | .apply k' _ => k' ≠ k
  | _ => True

/-- Is the object `k` applied by one of these calls? -/
def applies (k : Key) (log : List Call) : Bool :=
  log.any fun c => match c with
    | .apply k' _ => k' == k
    | _ => false

/-- The cluster with the calls that have changed it. -/
abbrev Tracked := Cluster × List Call

/-- The API server that keeps those calls. -/
abbrev tracked (api : ApiServer) (collectable : Resource → Bool) :
    Server Tracked Call Call.Reply Drift :=
  (cluster api collectable).logged Call.isWrite

theorem quiet_of_read {c : Call} (h : c.isWrite = false) : Quiet k c := by
  cases c <;> trivial

theorem applies_append {log : List Call} {c : Call} :
    applies k (log ++ [c]) = (applies k log || applies k [c]) := by
  simp [applies]

theorem applies_quiet {c : Call} (h : Quiet k c) : applies k [c] = false := by
  cases c <;> simp_all [applies, Quiet]

theorem stored_effect {c : Call} (h : Quiet k c) : stored (effect api c s) k = stored s k := by
  cases c with
  | get | list => rfl
  | apply k' r => simp only [effect, stored, content_apply, if_neg (Ne.symm h)]
  | delete k' => simp only [effect, stored, content_delete]

theorem stored_drift (c : Drift) : stored (s.drift collectable c) k = stored s k ∨
    c = .vanish k ∧ stored (s.drift collectable c) k = none := by
  cases c with
  | vanish k' =>
    simp only [stored, Cluster.content, lookup_vanish]
    split_ifs with h
    · exact .inr ⟨by rw [h.1], rfl⟩
    · exact .inl rfl
  | retire k' => exact .inl (by simp only [Cluster.drift, stored, content_delete])
  | report k' status generation =>
    left
    simp only [stored, Cluster.content, lookup_report]
    split_ifs with h
    · rw [h, Option.map_map, Option.map_map, Option.map_map]
      rfl
    · rfl

theorem stored_drift_of_ne {c : Drift} (h : c ≠ .vanish k) :
    stored (s.drift collectable c) k = stored s k :=
  (stored_drift c).resolve_right fun hc => h hc.1

/-! ### The calls of the parts of a run -/

/-- Only reads. -/
abbrev Reads {α : Type} (p : Run α) : Prop := p.Only fun c => c.isWrite = false

/-- Nothing that applies `k`. -/
abbrev Spares {α : Type} (k : Key) (p : Run α) : Prop := p.Only (Quiet k)

theorem Reads.spares {α : Type} {p : Run α} (h : Reads p) : Spares k p :=
  h.mono fun _ => quiet_of_read

theorem reads_kubeGet : Reads (kubeGet k) := only_invoke rfl

theorem spares_kubeDelete {k' : Key} : Spares k (kubeDelete k') := only_invoke trivial

theorem spares_kubeApply {k' : Key} {r : Resource} (h : k' ≠ k) : Spares k (kubeApply k' r) :=
  only_invoke h

theorem reads_readState : Reads (readState settings id) := by
  refine reads_kubeGet.bind fun st => ?_
  cases st with
  | none => trivial
  | some r =>
    simp only
    split_ifs <;> trivial

theorem spares_cleanup : Spares k (cleanupLegacyTombstones settings) := by
  refine Only.bind (only_invoke trivial) fun resources => Only.each fun p _ => ?_
  split_ifs
  · exact spares_kubeDelete
  · trivial

theorem reads_validateSecretCatalog : Reads (validateSecretCatalog settings py d) := by
  unfold validateSecretCatalog
  split_ifs
  · trivial
  refine reads_kubeGet.bind fun catalog => ?_
  cases catalog with
  | none => trivial
  | some r =>
    simp only
    split_ifs
    · trivial
    · exact Only.each fun _ _ => only_lift _
    · trivial

theorem reads_assertOwned {slug : Option String} : Reads (assertOwned d k slug) := by
  refine reads_kubeGet.bind fun found => ?_
  cases found with
  | none => trivial
  | some r =>
    simp only
    split_ifs <;> trivial

theorem reads_assertOwnedKeys (ks : List (Key × String)) : Reads (assertOwnedKeys d ks) := by
  induction ks with
  | nil => trivial
  | cons p ks ih => exact reads_assertOwned.bind fun _ => ih.bind fun _ => trivial

theorem reads_assertOwnedResources : Reads (assertOwnedResources settings d) :=
  reads_assertOwned.bind fun _ => (reads_assertOwnedKeys _).bind fun _ => trivial

theorem reads_anyRemaining (ks : List Key) : Reads (anyRemaining ks) := by
  induction ks with
  | nil => trivial
  | cons k ks ih => exact reads_kubeGet.bind fun _ => ih.bind fun _ => trivial

theorem reads_observeComponents {pods : List (Key × Resource)} (cs : List Component) :
    Reads (observeComponents settings id d pods cs) := by
  induction cs with
  | nil => trivial
  | cons c cs ih =>
    exact reads_kubeGet.bind fun _ => (only_lift _).bind fun _ => ih.bind fun _ => trivial

theorem spares_dropState : Spares k (dropState settings id d) :=
  spares_kubeDelete.bind fun _ => trivial

theorem spares_observeDeleting : Spares k (observeDeleting settings id d) := by
  refine (reads_anyRemaining _).spares.bind fun remaining => ?_
  cases remaining
  · exact spares_dropState
  · trivial

theorem reads_observeLive : Reads (observeLive settings id d) :=
  Only.bind (only_invoke rfl) fun _ => (reads_observeComponents _).bind fun _ => trivial

theorem spares_observe : Spares k (observe settings py id) := by
  refine reads_readState.spares.bind fun st => ?_
  cases st with
  | none => trivial
  | some state =>
    refine (only_lift _).bind fun d => (only_lift _).bind fun phase => ?_
    cases phase with
    | deleted => exact spares_dropState
    | deleting => exact spares_observeDeleting
    | _ => exact reads_observeLive.spares

theorem spares_dropAutoscaler {c : Component} : Spares k (dropAutoscaler settings d c) := by
  unfold dropAutoscaler
  split <;> first | exact spares_kubeDelete | trivial

theorem spares_preflight : Spares k (preflight settings py d) :=
  spares_cleanup.bind fun _ => reads_validateSecretCatalog.spares.bind fun _ =>
    reads_assertOwnedResources.spares.bind fun _ => trivial

theorem spares_deployComponent {restartRequest : String} {c : Component} :
    Spares (stateKey settings id) (deployComponent settings d restartRequest c) := by
  have happly : ∀ {kind r}, kind ≠ .configMap → Spares (stateKey settings id)
      (kubeApply (componentKey settings d.deploymentId c.slug kind) r) :=
    fun hkind => spares_kubeApply (componentKey_ne_stateKey hkind _ _ _)
  refine spares_dropAutoscaler.bind fun _ =>
    (spares_kubeApply (configKey_ne_stateKey _ _ _)).bind fun _ =>
      (happly (by decide)).bind fun _ =>
      (happly (by decide)).bind fun _ => ?_
  unfold applyAutoscaler
  split
  · exact happly (by decide)
  · trivial

theorem spares_undeployComponent {c : Component} :
    Spares k (undeployComponent settings id c) :=
  spares_kubeDelete.bind fun _ => spares_kubeDelete.bind fun _ => spares_kubeDelete.bind fun _ =>
    spares_kubeDelete

/-! ### Properties of the record -/

section Record

variable {Inv Post : Option Resource → Prop} {applied : Bool}

/-- The record has `Inv`, and the log of the run says whether it has been written. -/
def Holds (k : Key) (Inv : Option Resource → Prop) (applied : Bool) (t : Tracked) : Prop :=
  Inv (stored t.1 k) ∧ applies k t.2 = applied

/-- A removal of the object keeps `Inv`, if it can happen. -/
def Lasts (ok : Drift → Prop) (k : Key) (Inv : Option Resource → Prop) : Prop :=
  ok (.vanish k) → Inv none

theorem Lasts.stable (h : Lasts ok k Inv) :
    Prog.Stable (tracked api collectable) ok (Holds k Inv applied) := by
  rintro c ⟨s, log⟩ hc ⟨hs, hlog⟩
  refine ⟨?_, hlog⟩
  show Inv (stored (s.drift collectable c) k)
  have hcases : stored (s.drift collectable c) k = stored s k ∨
      c = .vanish k ∧ stored (s.drift collectable c) k = none := stored_drift c
  rcases hcases with heq | ⟨rfl, hnone⟩
  · rwa [heq]
  · rw [hnone]
    exact h hc

theorem holds_effect {c : Call} {t : Tracked} (hc : Quiet k c) (h : Holds k Inv applied t) :
    Holds k Inv applied ((tracked api collectable).effect c t) := by
  obtain ⟨s, log⟩ := t
  refine ⟨?_, ?_⟩
  · show Inv (stored (effect api c s) k)
    rw [stored_effect hc]
    exact h.1
  · show applies k (if c.isWrite then log ++ [c] else log) = applied
    split_ifs
    · rw [applies_append, applies_quiet hc, Bool.or_false]
      exact h.2
    · exact h.2

/-- **What does not apply the object keeps every property of its record.** -/
theorem triple_spares {α : Type} {p : Run α} (hp : Spares k p) (h : Lasts ok k Inv) :
    Prog.Triple (tracked api collectable) ok (Holds k Inv applied) p
      (fun _ => Holds k Inv applied) (fun _ => Holds k Inv applied) (Holds k Inv applied) :=
  hp.triple h.stable fun _ _ hc => holds_effect hc

theorem triple_kubeGet {P : Tracked → Prop} (hP : Prog.Stable (tracked api collectable) ok P)
    {E : ControllerError → Tracked → Prop} :
    Prog.Triple (tracked api collectable) ok P (kubeGet k)
      (fun found t => P t ∧ found = t.1.content k) E P :=
  Prog.triple_invoke hP fun _ ht => ⟨ht, ht, ht, rfl⟩

theorem triple_readState {P : Tracked → Prop} (hP : Prog.Stable (tracked api collectable) ok P) :
    Prog.Triple (tracked api collectable) ok P (readState settings id)
      (fun found t => (P t ∧ found = t.1.content (stateKey settings id)) ∧
        ∀ r, found = some r → ownedBy id r = true) (fun e t => P t ∧ e ≠ .notFound) P := by
  refine (triple_kubeGet hP).bind fun found => ?_
  cases found with
  | none => exact Prog.triple_pure fun t ht => ⟨ht, nofun⟩
  | some r =>
    simp only
    split_ifs with howned
    · refine Prog.triple_pure fun t ht => ⟨ht, fun r' hr' => ?_⟩
      cases hr'
      exact howned
    · exact Prog.triple_fail fun t ht => ⟨ht.1, nofun⟩

theorem record_of_content {r : Resource} {t : Tracked} (h : Holds k Inv applied t)
    (hr : some r = t.1.content k) : Inv (some r.record) := by
  have := h.1
  rwa [stored, ← hr] at this

theorem none_of_content {t : Tracked} (h : Holds k Inv applied t)
    (hr : none = t.1.content k) : Inv none := by
  have := h.1
  rwa [stored, ← hr] at this

theorem triple_kubeApply {r : Resource} {E : ControllerError → Tracked → Prop} {I : Tracked → Prop}
    (h : Lasts ok k Inv) (hr : ∀ old, Post (some (api.applied old r).record))
    (hbefore : ∀ t, Holds k Inv applied t → I t) (hafter : ∀ t, Holds k Post true t → I t) :
    Prog.Triple (tracked api collectable) ok (Holds k Inv applied) (kubeApply k r)
      (fun _ => Holds k Post true) E I := by
  refine Prog.triple_invoke h.stable fun t ht => ?_
  have hpost : Holds k Post true ((tracked api collectable).effect (.apply k r) t) := by
    refine ⟨?_, ?_⟩
    · show Post (stored (t.1.apply api k r) k)
      rw [stored, content_apply, if_pos rfl]
      exact hr _
    · show applies k (t.2 ++ [.apply k r]) = true
      simp [applies]
  exact ⟨hbefore t ht, hafter _ hpost, hpost⟩

end Record

/-! ### Deploying -/

section Deploy

variable {Inv Post : Option Resource → Prop} {F : Prop} {requestId restartRequest : String}
  {requireExisting : Bool}

/-- How a deploying run leaves the record: it has not been written, or it has been written, which
implies `F`. -/
def Settled (k : Key) (Inv Post : Option Resource → Prop) (F : Prop) (t : Tracked) : Prop :=
  Holds k Inv false t ∨ F ∧ Holds k Post true t

theorem triple_reconcile (hInv : Lasts ok (stateKey settings d.deploymentId) Inv)
    (hPost : Lasts ok (stateKey settings d.deploymentId) Post) (hF : F)
    (hrecord : ∀ phase r, phase ≠ .deleting → phase ≠ .deleted → IsRecord d phase r →
      Post (some r)) :
    let settled := Settled (stateKey settings d.deploymentId) Inv Post F
    Prog.Triple (tracked api collectable) ok (Holds (stateKey settings d.deploymentId) Inv false)
      (reconcile settings py d requestId restartRequest) (fun _ => settled) (fun _ => settled)
      settled := by
  intro settled
  have hbefore : ∀ t, Holds (stateKey settings d.deploymentId) Inv false t → settled t :=
    fun t ht => .inl ht
  have hafter : ∀ t, Holds (stateKey settings d.deploymentId) Post true t → settled t :=
    fun t ht => .inr ⟨hF, ht⟩
  have hkeep : ∀ {α : Type} {p : Run α}, Spares (stateKey settings d.deploymentId) p →
      Prog.Triple (tracked api collectable) ok (Holds (stateKey settings d.deploymentId) Inv false)
        p (fun _ => Holds (stateKey settings d.deploymentId) Inv false) (fun _ => settled)
          settled :=
    fun hp => (triple_spares hp hInv).mono (fun _ => id) (fun _ _ => id) (fun _ => hbefore) hbefore
  have hkeep' : ∀ {α : Type} {p : Run α}, Spares (stateKey settings d.deploymentId) p →
      Prog.Triple (tracked api collectable) ok (Holds (stateKey settings d.deploymentId) Post true)
        p (fun _ => Holds (stateKey settings d.deploymentId) Post true) (fun _ => settled)
          settled :=
    fun hp => (triple_spares hp hPost).mono (fun _ => id) (fun _ _ => id) (fun _ => hafter) hafter
  have hwritten : ∀ {phase}, phase ≠ .deleting → phase ≠ .deleted → ∀ old,
      Post (some (api.applied old (stateConfigMap d phase requestId)).record) :=
    fun h h' old => hrecord _ _ h h' (isRecord_applied old requestId).record
  refine (hkeep spares_preflight).bind fun _ =>
    (triple_kubeApply hInv (hwritten (by decide) (by decide)) hbefore hafter).bind fun _ =>
      (hkeep' (Only.each fun c _ => spares_deployComponent)).bind fun _ => ?_
  refine (triple_kubeApply hPost (hwritten ?_ ?_) hafter hafter).bind fun _ =>
    (hkeep' spares_observe).mono (fun _ => id) (fun _ => hafter) (fun _ _ => id) (fun _ => id)
  · split_ifs <;> decide
  · split_ifs <;> decide

/-- **Deploying.** A property `Inv` of the record holds until the request is admitted, which implies
`F`; from then on the records of the deployment are written, and they have `Post`. -/
theorem deploy_triple {pre : Cluster → Prop}
    (hpre : Prog.Stable (tracked api collectable) ok fun t => pre t.1)
    (hInv : Lasts ok (stateKey settings d.deploymentId) Inv)
    (hPost : Lasts ok (stateKey settings d.deploymentId) Post)
    (hadmits : ∀ state, Inv (some state.record) → admitDeploy settings py d state = .ok () → F)
    (hnone : ∀ s, pre s → s.content (stateKey settings d.deploymentId) = none → Inv none →
      requireExisting = false → F)
    (hrecord : F → ∀ phase r, phase ≠ .deleting → phase ≠ .deleted → IsRecord d phase r →
      Post (some r)) :
    let settled := Settled (stateKey settings d.deploymentId) Inv Post F
    Prog.Triple (tracked api collectable) ok
      (fun t => Holds (stateKey settings d.deploymentId) Inv false t ∧ pre t.1)
      (deployUnlocked settings py d requestId requireExisting restartRequest)
      (fun _ => settled) (fun _ => settled) settled := by
  intro settled
  have hstable : Prog.Stable (tracked api collectable) ok
      fun t => Holds (stateKey settings d.deploymentId) Inv false t ∧ pre t.1 :=
    fun c t hc ht => ⟨hInv.stable c t hc ht.1, hpre c t hc ht.2⟩
  have hunsettled : ∀ t, Holds (stateKey settings d.deploymentId) Inv false t ∧ pre t.1 →
      settled t := fun t ht => .inl ht.1
  refine ((triple_readState hstable).mono (fun _ => id) (fun _ _ => id)
    (fun _ t ht => hunsettled t ht.1) hunsettled).bind fun found => ?_
  cases found with
  | none =>
    -- no record: a POST creates it, the other requests answer 404
    cases requireExisting with
    | true => exact Prog.triple_fail fun t ht => .inl ht.1.1.1
    | false =>
      rintro t ⟨⟨⟨ht, hp⟩, hcontent⟩, -⟩
      have hF := hnone t.1 hp hcontent.symm (none_of_content ht hcontent) rfl
      exact triple_reconcile hInv hPost hF (hrecord hF) t ht
  | some state =>
    refine Prog.Triple.bind (R := fun _ t =>
      Holds (stateKey settings d.deploymentId) Inv false t ∧ F)
      (Prog.triple_lift ?_ ?_) fun _ => ?_
    · rintro _ t hok ⟨⟨⟨ht, -⟩, hcontent⟩, -⟩
      exact ⟨ht, hadmits state (record_of_content ht hcontent) hok⟩
    · rintro e t - ⟨⟨⟨ht, -⟩, -⟩, -⟩
      exact .inl ht
    · rintro t ⟨ht, hF⟩
      exact triple_reconcile hInv hPost hF (hrecord hF) t ht

end Deploy

/-! ### Observing -/

/-- The record is gone, or it says that the deployment is being deleted. -/
def Gone (st : Option Resource) : Prop := ∀ r, st = some r → isDead r = true

theorem gone_none : Gone none := nofun

section Observe

variable {Inv : Option Resource → Prop} {applied : Bool}

theorem overallState_ne_deleted {observed : List ComponentResult} :
    overallState d observed ≠ .deleted := by
  unfold overallState
  split_ifs <;> decide

theorem triple_dead {α : Type} {p : Run α} (hp : Spares k p) (hInv : Lasts ok k Inv) :
    Prog.Triple (tracked api collectable) ok (Holds k (fun st => Inv st ∧ Gone st) applied) p
      (fun _ t => Holds k Inv applied t ∧ Gone (stored t.1 k))
      (fun _ t => Holds k Inv applied t ∧ Gone (stored t.1 k)) (Holds k Inv applied) :=
  (triple_spares hp (show Lasts ok k fun st => Inv st ∧ Gone st from
    fun h => ⟨hInv h, gone_none⟩)).mono (fun _ => id) (fun _ _ h => ⟨⟨h.1.1, h.2⟩, h.1.2⟩)
    (fun _ _ h => ⟨⟨h.1.1, h.2⟩, h.1.2⟩) (fun _ h => ⟨h.1.1, h.2⟩)

theorem holds_dead {state : Resource} {t : Tracked} (h : Holds k Inv applied t)
    (hcontent : some state = t.1.content k) (hdead : isDead state = true) :
    Holds k (fun st => Inv st ∧ Gone st) applied t := by
  refine ⟨⟨h.1, ?_⟩, h.2⟩
  rw [stored, ← hcontent]
  rintro r hr
  cases hr
  exact hdead

theorem desiredFromState_ne_notFound {r : Resource} :
    desiredFromState settings py r ≠ .error .notFound := by
  unfold desiredFromState
  split
  · nofun
  split
  · nofun
  exact fun h => refuses_parseDesiredDeployment settings true _ _ h

theorem phaseOf_ne_notFound {r : Resource} : phaseOf r ≠ .error .notFound := by
  unfold phaseOf
  split <;> nofun

theorem componentStatus_ne_notFound {c : Component} {deployment : Option Resource}
    {pods : List Resource} (e : ControllerError)
    (h : componentStatus d c deployment pods = .error e) : e ≠ .notFound := by
  have himage : ∀ spec, Raises (· ≠ .notFound) (actualImage c spec) := by
    intro spec
    unfold actualImage
    repeat' split
    all_goals first | exact raises_ok _ | exact raises_error nofun
  cases deployment with
  | none => cases h
  | some deployment => exact (himage _).bind (fun _ => raises_ok _) e h

/-- A result with the state `deleted` says that the record is gone. -/
def Reported (k : Key) (Inv : Option Resource → Prop) (applied : Bool) (a : RuntimeResult)
    (t : Tracked) : Prop :=
  Holds k Inv applied t ∧ (a.state = .deleted → Gone (stored t.1 k))

theorem raising_observeLive : (observeLive settings id d).Raising (· ≠ .notFound) := by
  have hcomponents : ∀ pods cs,
      (observeComponents settings id d pods cs).Raising (· ≠ .notFound) := by
    intro pods cs
    induction cs with
    | nil => trivial
    | cons c cs ih =>
      exact Prog.Raising.bind (Prog.raising_invoke _) fun _ =>
        (Prog.raising_lift componentStatus_ne_notFound).bind fun _ => ih.bind fun _ => trivial
  exact Prog.Raising.bind (Prog.raising_invoke _) fun _ => (hcomponents _ _).bind fun _ => trivial

theorem triple_observeLive (hInv : Lasts ok k Inv) :
    Prog.Triple (tracked api collectable) ok (Holds k Inv applied) (observeLive settings id d)
      (Reported k Inv applied)
      (fun e t => Holds k Inv applied t ∧ (e = .notFound → Gone (stored t.1 k)))
      (Holds k Inv applied) := by
  have hlist : Reads (kubeList settings.namespaceName .pod (selector id)) := only_invoke rfl
  have hlive : Prog.Triple (tracked api collectable) ok (Holds k Inv applied)
      (observeLive settings id d) (Reported k Inv applied) (fun _ => Holds k Inv applied)
      (Holds k Inv applied) :=
    (triple_spares hlist.spares hInv).bind fun _ =>
      (triple_spares (reads_observeComponents _).spares hInv).bind fun _ =>
        Prog.triple_pure fun t ht => ⟨ht, fun h => absurd h overallState_ne_deleted⟩
  exact (hlive.raising raising_observeLive).mono (fun _ h => h) (fun _ _ h => h)
    (fun e t ht => ⟨ht.1, fun he => absurd he ht.2⟩) fun _ h => h

/-- **Observing.** A run that reports the state `deleted` leaves the record gone. -/
theorem observe_triple (hInv : Lasts ok (stateKey settings id) Inv) :
    Prog.Triple (tracked api collectable) ok (Holds (stateKey settings id) Inv applied)
      (observe settings py id) (Reported (stateKey settings id) Inv applied)
      (fun e t => Holds (stateKey settings id) Inv applied t ∧
        (e = .notFound → Gone (stored t.1 (stateKey settings id))))
      (Holds (stateKey settings id) Inv applied) := by
  refine ((triple_readState hInv.stable).mono (fun _ h => h) (fun _ _ h => h)
    (fun e t ht => ⟨ht.1, fun he => absurd he ht.2⟩) fun _ h => h).bind fun found => ?_
  cases found with
  | none =>
    refine Prog.triple_fail fun t ht => ⟨ht.1.1, fun _ => ?_⟩
    rw [stored, ← ht.1.2]
    exact gone_none
  | some state =>
    refine Prog.Triple.bind (Prog.triple_lift (fun d t _ ht => ht) fun e t he ht =>
      ⟨ht.1.1, fun hnot => absurd (hnot ▸ he) desiredFromState_ne_notFound⟩) fun d => ?_
    refine Prog.Triple.bind (R := fun phase t => Holds (stateKey settings id)
        (fun st => Inv st ∧ (phase = .deleting ∨ phase = .deleted → Gone st)) applied t)
      (Prog.triple_lift (fun phase t hphase ht => ⟨⟨ht.1.1.1, fun hdead => ?_⟩, ht.1.1.2⟩)
        fun e t he ht => ⟨ht.1.1, fun hnot => absurd (hnot ▸ he) phaseOf_ne_notFound⟩)
      fun phase => ?_
    · exact (holds_dead ht.1.1 ht.1.2 ((isDead_of_phase (phaseOf_eq_ok hphase)).2 hdead)).1.2
    -- a dead record stays dead while it is observed, and may be dropped
    have hdead : ∀ {p : Run RuntimeResult}, Spares (stateKey settings id) p →
        phase = .deleting ∨ phase = .deleted → Prog.Triple (tracked api collectable) ok
          (Holds (stateKey settings id)
            (fun st => Inv st ∧ (phase = .deleting ∨ phase = .deleted → Gone st)) applied) p
          (Reported (stateKey settings id) Inv applied)
          (fun e t => Holds (stateKey settings id) Inv applied t ∧
            (e = .notFound → Gone (stored t.1 (stateKey settings id))))
          (Holds (stateKey settings id) Inv applied) := fun hp hphase =>
      (triple_dead hp hInv).mono (fun t ht => ⟨⟨ht.1.1, ht.1.2 hphase⟩, ht.2⟩)
        (fun _ t ht => ⟨ht.1, fun _ => ht.2⟩) (fun _ t ht => ⟨ht.1, fun _ => ht.2⟩) fun _ h => h
    have hlive := fun t (ht : Holds (stateKey settings id) (fun st => Inv st ∧
      (phase = .deleting ∨ phase = .deleted → Gone st)) applied t) =>
      (⟨ht.1.1, ht.2⟩ : Holds (stateKey settings id) Inv applied t)
    cases phase with
    | deleted => exact hdead spares_dropState (.inr rfl)
    | deleting => exact hdead spares_observeDeleting (.inl rfl)
    | _ =>
      exact (triple_observeLive hInv).mono hlive (fun _ _ h => h) (fun _ _ h => h) fun _ h => h

end Observe

/-! ### Undeploying -/

section Undeploy

variable {Inv : Option Resource → Prop} {requestId : String} {desired : Option DesiredDeployment}

/-- The record has `Inv`, whether or not the run has written it. -/
def Kept (k : Key) (Inv : Option Resource → Prop) (t : Tracked) : Prop := Inv (stored t.1 k)

/-- A result of a run that keeps `Inv`. -/
def KeptReport (k : Key) (Inv : Option Resource → Prop) (a : RuntimeResult) (t : Tracked) : Prop :=
  Kept k Inv t ∧ (a.state = .deleted → Gone (stored t.1 k))

/-- How `tearDown` goes on after the state object is written. -/
def tearDownRest (settings : ControllerSettings) (py : FloatReader) (id : String)
    (d : DesiredDeployment) : Run RuntimeResult := do
  Prog.each (undeployComponent settings id) d.components
  (observe settings py id).handle fun e => match e with
    | .notFound => pure (deletedResult d)
    | e => .fail e

theorem triple_tearDown (hInv : Lasts ok (stateKey settings id) Inv)
    (hrecord : ∀ r, IsRecord d .deleting r → Inv (some r)) :
    Prog.Triple (tracked api collectable) ok (Holds (stateKey settings id) Inv false)
      (tearDown settings py id requestId d) (KeptReport (stateKey settings id) Inv)
      (fun _ => Kept (stateKey settings id) Inv) (Kept (stateKey settings id) Inv) := by
  -- the record may name another deployment, whose state object is then applied
  have hrest : ∀ applied, Prog.Triple (tracked api collectable) ok
      (Holds (stateKey settings id) Inv applied) (tearDownRest settings py id d)
      (KeptReport (stateKey settings id) Inv)
      (fun _ => Kept (stateKey settings id) Inv) (Kept (stateKey settings id) Inv) := by
    intro applied
    refine ((triple_spares (Only.each fun c _ => spares_undeployComponent) hInv).mono (fun _ h => h)
      (fun _ _ h => h) (fun _ _ h => h.1) fun _ h => h.1).bind fun _ => ?_
    refine ((observe_triple hInv).mono (fun _ h => h) (fun a t ht => ⟨ht.1.1, ht.2⟩)
      (fun _ _ h => h) fun _ h => h.1).handle fun e => ?_
    cases e with
    | notFound => exact Prog.triple_pure fun t ht => ⟨ht.1.1, fun _ => ht.2 rfl⟩
    | _ => exact Prog.triple_fail fun t ht => ht.1.1
  by_cases hkey : stateKey settings d.deploymentId = stateKey settings id
  · unfold tearDown
    rw [hkey]
    exact (triple_kubeApply hInv (fun old => hrecord _ (isRecord_applied old requestId).record)
      (fun _ h => h.1) fun _ h => h.1).bind fun _ => hrest true
  · exact ((triple_spares (spares_kubeApply hkey) hInv).mono (fun _ h => h) (fun _ _ h => h)
      (fun _ _ h => h.1) fun _ h => h.1).bind fun _ => hrest false

/-- **Undeploying.** A property of the record survives, if the records that a deletion writes have
it; a run that reports the state `deleted` leaves the record gone. -/
theorem undeploy_triple (hInv : Lasts ok (stateKey settings id) Inv)
    (hadmits : ∀ state d, Inv (some state.record) → admitUndeploy settings py desired state =
      .ok d → ∀ r, IsRecord d .deleting r → Inv (some r))
    (hnone : ∀ d, desired = some d → Inv none → ∀ r, IsRecord d .deleting r → Inv (some r)) :
    Prog.Triple (tracked api collectable) ok (Holds (stateKey settings id) Inv false)
      (undeployUnlocked settings py id requestId desired) (KeptReport (stateKey settings id) Inv)
      (fun _ => Kept (stateKey settings id) Inv) (Kept (stateKey settings id) Inv) := by
  refine ((triple_readState hInv.stable).mono (fun _ h => h) (fun _ _ h => h) (fun _ _ h => h.1.1)
    fun _ h => h.1).bind fun found => ?_
  refine Prog.Triple.bind (Prog.triple_lift (fun _ _ _ ht => ht) fun _ _ _ ht => ht.1.1.1)
    fun _ => ?_
  cases found with
  | none =>
    -- without a record, what is found of the deployment is torn down
    cases desired with
    | none =>
      refine Prog.triple_pure fun t ht => ⟨ht.1.1.1, fun _ => ?_⟩
      rw [stored, ← ht.1.2]
      exact gone_none
    | some d =>
      rintro t ⟨⟨ht, hcontent⟩, -⟩
      have hn := hnone d rfl (none_of_content ht hcontent)
      have hgone : Holds (stateKey settings id) (fun st => Inv st ∧ Gone st) false t := by
        refine ⟨⟨ht.1, ?_⟩, ht.2⟩
        rw [stored, ← hcontent]
        exact gone_none
      refine (Prog.Triple.bind (Prog.Triple.mono (triple_spares reads_assertOwnedResources.spares
        (show Lasts ok (stateKey settings id) fun st => Inv st ∧ Gone st from
          fun h => ⟨hInv h, gone_none⟩)) (fun _ h => h) (fun _ _ h => h) (fun _ _ h => h.1.1)
            fun _ h => h.1.1) fun found => ?_) t hgone
      cases found
      · exact Prog.triple_pure fun t ht => ⟨ht.1.1, fun _ => ht.1.2⟩
      · exact (triple_tearDown hInv hn).mono (fun t ht => ⟨ht.1.1, ht.2⟩) (fun _ _ h => h)
          (fun _ _ h => h) fun _ h => h
  | some state =>
    refine Prog.Triple.bind (R := fun d t => (Holds (stateKey settings id) Inv false t ∧
        some state = t.1.content (stateKey settings id)) ∧
        ∀ r, IsRecord d .deleting r → Inv (some r))
      (Prog.triple_lift (fun d t hd ht => ⟨ht.1,
        hadmits state d (record_of_content ht.1.1 ht.1.2) hd⟩)
        fun _ _ _ ht => ht.1.1.1) fun d => ?_
    refine Prog.Triple.bind (R := fun phase t => (Holds (stateKey settings id) Inv false t ∧
        (phase = .deleted → Gone (stored t.1 (stateKey settings id)))) ∧
        ∀ r, IsRecord d .deleting r → Inv (some r))
      (Prog.triple_lift (fun phase t hphase ht => ⟨⟨ht.1.1, fun hdead => ?_⟩, ht.2⟩)
        fun _ _ _ ht => ht.1.1.1) fun phase => ?_
    · exact (holds_dead ht.1.1 ht.1.2 ((isDead_of_phase (phaseOf_eq_ok hphase)).2 (.inr hdead))).1.2
    -- a record that is already `deleted` is only dropped
    by_cases hphase : phase = .deleted
    · rw [if_pos hphase]
      exact (triple_dead spares_dropState hInv).mono
        (fun t ht => ⟨⟨ht.1.1.1, ht.1.2 hphase⟩, ht.1.1.2⟩) (fun _ t ht => ⟨ht.1.1, fun _ => ht.2⟩)
        (fun _ t ht => ht.1.1) fun _ ht => ht.1
    · rw [if_neg hphase]
      rintro t ⟨⟨ht, -⟩, hrecord⟩
      exact (((triple_spares reads_assertOwnedResources.spares hInv).mono (fun _ h => h)
        (fun _ _ h => h) (fun _ _ h => h.1) fun _ h => h.1).bind fun _ =>
          triple_tearDown hInv hrecord) t ht

end Undeploy

end ArchiDeal.Reconciler
