import ArchiDeal.Hosting.Steps

/-!
# The queue of operations

At most one operation that changes a deployment is under way, it is for the current generation, and
it is there exactly when the deployment is in a state that waits for the controller.

* `Database.Queue`: the invariant;
* `Queue.work`, `Queue.ask`: what keeps it;
* `queue_of_reach`: it holds in every state of every run.
-/

namespace ArchiDeal.Hosting

open Transition

/-! ### The invariant -/

/-- No deployment has two operations with the property `p`. -/
def Database.AtMostOne (db : Database) (p : RuntimeOperation → Bool) : Prop :=
  ∀ i j a b, db.operations.lookup i = some a → db.operations.lookup j = some b →
    p a = true → p b = true → a.deployment = b.deployment → i = j

/-- Deployment `k` has an operation under way that changes it. -/
def Database.Busy (db : Database) (k : Uuid) : Prop :=
  ∃ i o, db.operations.lookup i = some o ∧ o.deployment = k ∧ o.mutates = true

structure Database.Queue (db : Database) : Prop where
  mutation : db.AtMostOne RuntimeOperation.mutates
  capture : db.AtMostOne RuntimeOperation.captures
  generation : ∀ i o d, db.operations.lookup i = some o → o.mutates = true →
    db.deployments.lookup o.deployment = some d → o.targetGeneration = d.generation
  transitional : ∀ k d, db.deployments.lookup k = some d →
    (d.observedState.transitional = true ↔ db.Busy k)

section Database

variable {db db' : Database} {i : Uuid} {o o' : RuntimeOperation} {d d' : RuntimeDeployment}
  {p : RuntimeOperation → Bool}

theorem Database.hasOperation_eq_false {k : Uuid} : db.hasOperation k p = false ↔
    ∀ i o, db.operations.lookup i = some o → o.deployment = k → p o = false := by
  simp only [hasOperation, Table.any_eq_false, Bool.and_eq_false_imp, beq_iff_eq]

/-- Rewriting a row, in the same deployment, that had the property if it has it. -/
theorem Database.AtMostOne.rewrite (h : db.AtMostOne p) (ho : db.operations.lookup i = some o)
    (hk : o'.deployment = o.deployment) (hp : p o' = true → p o = true)
    (saves : Saves db i o' d' db') : db'.AtMostOne p := by
  -- every row of the new table stands for one of the old table, with the same deployment
  have hold : ∀ j a, db'.operations.lookup j = some a → p a = true →
      ∃ b, db.operations.lookup j = some b ∧ p b = true ∧ b.deployment = a.deployment := by
    intro j a ha hpa
    rw [saves.operations] at ha
    split_ifs at ha with hj
    · subst hj
      cases ha
      exact ⟨o, ho, hp hpa, hk.symm⟩
    · exact ⟨a, ha, hpa, rfl⟩
  intro j₁ j₂ a b ha hb hpa hpb hab
  obtain ⟨a', ha', hpa', hka⟩ := hold j₁ a ha hpa
  obtain ⟨b', hb', hpb', hkb⟩ := hold j₂ b hb hpb
  exact h j₁ j₂ a' b' ha' hb' hpa' hpb' (hka.trans (hab.trans hkb.symm))

theorem Database.AtMostOne.add (h : db.AtMostOne p)
    (hp : p o = true → db.hasOperation o.deployment p = false) (saves : Saves db i o d db') :
    db'.AtMostOne p := by
  intro j₁ j₂ a b ha hb hpa hpb hab
  rw [saves.operations] at ha hb
  split_ifs at ha with h₁ <;> split_ifs at hb with h₂
  · rw [h₁, h₂]
  · cases ha
    have := hasOperation_eq_false.1 (hp hpa) j₂ b hb hab.symm
    rw [hpb] at this
    cases this
  · cases hb
    have := hasOperation_eq_false.1 (hp hpb) j₁ a ha hab
    rw [hpa] at this
    cases this
  · exact h j₁ j₂ a b ha hb hpa hpb hab

theorem Saves.busy (saves : Saves db i o d db') {k : Uuid} : db'.Busy k ↔
    (o.deployment = k ∧ o.mutates = true) ∨
      ∃ j p, j ≠ i ∧ db.operations.lookup j = some p ∧ p.deployment = k ∧ p.mutates = true := by
  constructor
  · rintro ⟨j, p, hp, hk, hm⟩
    rw [saves.operations] at hp
    split_ifs at hp with hj
    · cases hp
      exact .inl ⟨hk, hm⟩
    · exact .inr ⟨j, p, hj, hp, hk, hm⟩
  · rintro (⟨hk, hm⟩ | ⟨j, p, hj, hp, hk, hm⟩)
    · exact ⟨i, o, by rw [saves.operations, if_pos rfl], hk, hm⟩
    · exact ⟨j, p, by rw [saves.operations, if_neg hj, hp], hk, hm⟩

theorem RuntimeOperation.mutates_eq_true :
    o.mutates = true ↔ o.isActive = true ∧ o.isLog = false := by
  simp [mutates]

theorem RuntimeOperation.captures_eq_true :
    o.captures = true ↔ o.isActive = true ∧ o.isLog = true := by
  simp [captures]

/-! ### What keeps it -/

/-- Another operation than `i` that changes deployment `k` is under way. -/
def Database.OtherBusy (db : Database) (i k : Uuid) : Prop :=
  ∃ j p, j ≠ i ∧ db.operations.lookup j = some p ∧ p.deployment = k ∧ p.mutates = true

/-- A save keeps the queue when it keeps it for the deployment of the saved operation. -/
theorem Database.Queue.saves (hq : db.Queue) (saves : Saves db i o' d' db')
    (hsame : ∀ p, db.operations.lookup i = some p → p.deployment = o'.deployment)
    (hmutation : db'.AtMostOne RuntimeOperation.mutates)
    (hcapture : db'.AtMostOne RuntimeOperation.captures)
    (hgen : o'.mutates = true → o'.targetGeneration = d'.generation)
    (hother : ∀ j p, j ≠ i → db.operations.lookup j = some p → p.mutates = true →
      p.deployment = o'.deployment → p.targetGeneration = d'.generation)
    (htrans : d'.observedState.transitional = true ↔
      o'.mutates = true ∨ db.OtherBusy i o'.deployment) : db'.Queue := by
  refine ⟨hmutation, hcapture, ?_, ?_⟩
  · intro j p e hp hm he
    rw [saves.operations] at hp
    rw [saves.deployments] at he
    split_ifs at hp with hj
    · cases hp
      rw [if_pos rfl] at he
      cases he
      exact hgen hm
    · split_ifs at he with hk
      · cases he
        exact hother j p hj hp hm hk
      · exact hq.generation j p e hp hm he
  · intro k e he
    rw [saves.busy]
    rw [saves.deployments] at he
    split_ifs at he with hk
    · cases he
      subst hk
      rw [htrans]
      simp only [true_and, OtherBusy]
    · rw [hq.transitional k e he]
      constructor
      · rintro ⟨j, p, hp, hkp, hm⟩
        refine .inr ⟨j, p, ?_, hp, hkp, hm⟩
        rintro rfl
        exact hk (hkp.symm.trans (hsame p hp))
      · rintro (⟨hkp, -⟩ | ⟨j, p, -, hp, hkp, hm⟩)
        · exact absurd hkp.symm hk
        · exact ⟨j, p, hp, hkp, hm⟩

/-- A transaction on an active operation keeps the queue when it leaves the deployment of a log
alone, and otherwise leaves it waiting exactly when the operation is still active. -/
theorem Database.Queue.work (hq : db.Queue) (ho : db.operations.lookup i = some o)
    (hd : db.deployments.lookup o.deployment = some d) (horder : o'.order = o.order)
    (hactive : o.isActive = true) (hgen : d'.generation = d.generation)
    (hlog : o.isLog = true → d'.observedState = d.observedState)
    (hmut : o.isLog = false → d.observedState.transitional = true →
      d'.observedState.transitional = o'.isActive)
    (saves : Saves db i o' d' db') : db'.Queue := by
  have hk := deployment_of_order horder
  have htarget := targetGeneration_of_order horder
  have hlog' : o'.isLog = o.isLog := isLog_of_order horder
  have hmutates : o'.mutates = true → o.mutates = true := by
    simp only [RuntimeOperation.mutates_eq_true, hlog']
    exact fun h => ⟨hactive, h.2⟩
  have hcaptures : o'.captures = true → o.captures = true := by
    simp only [RuntimeOperation.captures_eq_true, hlog']
    exact fun h => ⟨hactive, h.2⟩
  have hbusy := hq.transitional o.deployment d hd
  refine hq.saves saves (fun p hp => ?_) (hq.mutation.rewrite ho hk hmutates saves)
    (hq.capture.rewrite ho hk hcaptures saves) (fun hm => ?_) (fun j p _ hp hm hkp => ?_) ?_
  · cases ho.symm.trans hp
    exact hk.symm
  · rw [htarget, hgen]
    exact hq.generation i o d ho (hmutates hm) hd
  · rw [hgen]
    exact hq.generation j p d hp hm (by rw [hkp, hk, hd])
  · rw [hk]
    cases hcase : o.isLog with
    | true =>
      -- the log does not count, before or after
      have hm : o.mutates = false ∧ o'.mutates = false := by
        simp [RuntimeOperation.mutates, hlog', hcase]
      rw [hlog hcase, hbusy, hm.2]
      constructor
      · rintro ⟨j, p, hp, hkp, hmp⟩
        refine .inr ⟨j, p, ?_, hp, hkp, hmp⟩
        rintro rfl
        cases ho.symm.trans hp
        rw [hm.1] at hmp
        cases hmp
      · rintro (h | ⟨j, p, -, h⟩)
        · cases h
        · exact ⟨j, p, h⟩
    | false =>
      -- this operation is the only one that counts
      have hm : o.mutates = true := RuntimeOperation.mutates_eq_true.2 ⟨hactive, hcase⟩
      rw [hmut hcase (hbusy.2 ⟨i, o, ho, rfl, hm⟩)]
      constructor
      · intro h
        exact .inl (RuntimeOperation.mutates_eq_true.2 ⟨h, hlog'.trans hcase⟩)
      · rintro (h | ⟨j, p, hj, hp, hkp, hmp⟩)
        · exact (RuntimeOperation.mutates_eq_true.1 h).1
        · exact absurd (hq.mutation j i p o hp ho hmp hm hkp) hj

/-- A new operation that changes an idle deployment, which it leaves waiting. -/
theorem Database.Queue.add (hq : db.Queue) (hnew : db.operations.lookup i = none)
    (hidle : db.hasOperation o.deployment RuntimeOperation.mutates = false)
    (hm : o.mutates = true) (hgen : o.targetGeneration = d.generation)
    (hwait : d.observedState.transitional = true) (saves : Saves db i o d db') : db'.Queue := by
  have hidle' := Database.hasOperation_eq_false.1 hidle
  have hcap : o.captures = false := by
    simp [RuntimeOperation.captures, (RuntimeOperation.mutates_eq_true.1 hm).2]
  refine hq.saves saves (fun p hp => ?_) (hq.mutation.add (fun _ => hidle) saves)
    (hq.capture.add (fun h => ?_) saves) (fun _ => hgen) (fun j p _ hp hmp hkp => ?_) ?_
  · rw [hnew] at hp
    cases hp
  · rw [hcap] at h
    cases h
  · rw [hidle' j p hp hkp] at hmp
    cases hmp
  · exact iff_of_true hwait (.inl hm)

theorem Database.Queue.log (hq : db.Queue) (hnew : db.operations.lookup i = none)
    (hd : db.deployments.lookup o.deployment = some d) (hlog : o.isLog = true)
    (hidle : db.hasOperation o.deployment RuntimeOperation.captures = false)
    (saves : Saves db i o d db') : db'.Queue := by
  have hm : o.mutates = false := by simp [RuntimeOperation.mutates, hlog]
  refine hq.saves saves (fun p hp => ?_) (hq.mutation.add (fun h => ?_) saves)
    (hq.capture.add (fun _ => hidle) saves) (fun h => ?_) (fun j p _ hp hmp hkp => ?_) ?_
  · rw [hnew] at hp
    cases hp
  · rw [hm] at h
    cases h
  · rw [hm] at h
    cases h
  · exact hq.generation j p d hp hmp (by rw [hkp, hd])
  · rw [hm, hq.transitional o.deployment d hd]
    constructor
    · rintro ⟨j, p, hp, h⟩
      refine .inr ⟨j, p, ?_, hp, h⟩
      rintro rfl
      rw [hnew] at hp
      cases hp
    · rintro (h | ⟨j, p, -, h⟩)
      · cases h
      · exact ⟨j, p, h⟩

end Database

/-! ### The steps -/

section Steps

variable {settings : Settings} {w w' : World} {l : Label} {i token : Uuid} {phase : Phase}
  {o o' : RuntimeOperation} {d d' : RuntimeDeployment} {clock : Time}

theorem transitional_of_expected {state : ObservedState} {desired : DesiredState}
    (h : state ∈ expectedStates desired) : state.transitional = false := by
  cases desired <;> cases state <;> simp_all [expectedStates, ObservedState.transitional]

/-- The deployment waits after `_record_snapshot` exactly when the operation is still active. -/
theorem Recorded.transitional {loaded : RuntimeOperation} {s : RuntimeSnapshot} {now : Time}
    (h : Recorded loaded o d s now clock o' d') (hwait : d.observedState.transitional = true) :
    d'.observedState.transitional = o'.isActive := by
  cases h with
  | waiting => exact hwait
  | timedOut => rfl
  | unwanted => rfl
  | failed failed =>
    rw [show (applySnapshot d s now clock).observedState = s.state from rfl]
    rcases failed with h | h <;> rw [h] <;> rfl
  | succeeded _ wanted => exact transitional_of_expected wanted

theorem Effect.transitional (h : Effect clock token o d l phase o' d') :
    (o.isLog = true → d'.observedState = d.observedState) ∧
      (o.isLog = false → d.observedState.transitional = true →
        d'.observedState.transitional = o'.isActive) := by
  cases h with
  | record mutation _ _ _ recorded =>
    exact ⟨fun hlog => absurd (mutation.symm.trans hlog) nofun, fun _ => recorded.transitional⟩
  | keep log =>
    refine ⟨fun _ => rfl, fun hlog hwait => ?_⟩
    cases hactive : o'.isActive with
    | true => exact hwait
    | false => exact absurd (hlog.symm.trans (log hactive)) nofun
  | fail mutation failed =>
    refine ⟨fun hlog => absurd (mutation.symm.trans hlog) nofun, fun _ _ => ?_⟩
    rw [RuntimeOperation.isActive, failed]
    rfl

theorem Effect.generation (h : Effect clock token o d l phase o' d') : d'.generation =
    d.generation := by
  cases h with
  | record _ _ _ _ recorded => cases recorded <;> rfl
  | keep => rfl
  | fail => rfl

theorem isActive_of_claimable {now : Time} (h : o.claimable now = true) : o.isActive = true := by
  simp only [RuntimeOperation.claimable, Bool.and_eq_true, Bool.or_eq_true] at h
  simp only [RuntimeOperation.isActive, Bool.or_eq_true]
  exact h.1.imp_right And.left

theorem Did.isActive (hs : Sound w) (ho : w.db.operations.lookup i = some o)
    (h : Did w i o d l o' d') : o.isActive = true := by
  cases h with
  | claim _ _ free => exact isActive_of_claimable free
  | worked _ held =>
    simp [RuntimeOperation.isActive, (hs.leased i o _ ho held).1]

theorem queue_step (hs : Sound w) (hq : w.db.Queue) (h : step settings w l = some w') :
    w'.db.Queue := by
  cases step_tx hs.owned h with
  | quiet operations deployments =>
    obtain ⟨h₁, h₂, h₃, h₄⟩ := hq
    simp only [← operations, ← deployments, Database.AtMostOne, Database.Busy] at h₁ h₂ h₃ h₄
    exact ⟨h₁, h₂, h₃, h₄⟩
  | work found owner did saves =>
    have hactive := did.isActive hs found
    have horder := did.order
    cases did with
    | claim =>
      exact hq.work found owner horder hactive rfl (fun _ => rfl) (fun _ h => h) saves
    | worked session _ work =>
      obtain ⟨o₀, ho₀, hf⟩ := hs.attached _ _ _ session
      cases ho₀.symm.trans found
      have heffect := work.effect hf
      exact hq.work found owner horder hactive heffect.generation heffect.transitional.1
        heffect.transitional.2 saves
  | ask flight newKey newId asked free saves =>
    cases asked with
    | create =>
      refine hq.add newId (Database.hasOperation_eq_false.2 fun j p hp hk => ?_) rfl rfl rfl saves
      obtain ⟨d, hd⟩ := hs.owned j p hp
      rw [hk] at hd
      cases newKey.symm.trans hd
    | request found current idle requested =>
      refine hq.add newId idle ?_ rfl requested.transitional saves
      simpa [RuntimeOperation.mutates, RuntimeOperation.isActive, RuntimeOperation.isLog,
        newOperation] using requested.type_ne
    | logs found current idle => exact hq.log newId found rfl idle saves

theorem World.Initial.queue (h : w.Initial) : w.db.Queue := by
  obtain ⟨hd, ho, -⟩ := h
  refine ⟨fun i j a b ha => ?_, fun i j a b ha => ?_, fun i o d ha => ?_, fun k d ha => ?_⟩
  · rw [ho] at ha; cases ha
  · rw [ho] at ha; cases ha
  · rw [ho] at ha; cases ha
  · rw [hd] at ha; cases ha

theorem queue_of_reach {w₀ : World} (h₀ : w₀.Initial) (h : Reach (step settings) Free w₀ w) :
    w.db.Queue :=
  h.invariant (fun v => v.db.Queue) h₀.queue fun run hq _ hstep =>
    queue_step (sound_of_reach h₀ run) hq hstep

end Steps

/-- **The queue invariant.** In every state of every run, a deployment has at most one active
operation that is not a log and at most one active log; the former is for the current generation of
its deployment; and a deployment has one exactly when it is pending, reconciling or deleting. -/
theorem queue_invariant {settings : Settings} {w₀ w : World} (h₀ : w₀.Initial)
    (run : Reach (step settings) Free w₀ w) :
    (∀ i j a b, w.db.operations.lookup i = some a → w.db.operations.lookup j = some b →
      a.deployment = b.deployment → a.mutates = true → b.mutates = true → i = j) ∧
    (∀ i j a b, w.db.operations.lookup i = some a → w.db.operations.lookup j = some b →
      a.deployment = b.deployment → a.captures = true → b.captures = true → i = j) ∧
    (∀ i o d, w.db.operations.lookup i = some o → o.mutates = true →
      w.db.deployments.lookup o.deployment = some d → o.targetGeneration = d.generation) ∧
    (∀ k d, w.db.deployments.lookup k = some d →
      ((∃ i o, w.db.operations.lookup i = some o ∧ o.deployment = k ∧ o.mutates = true) ↔
        d.observedState ∈ [.pending, .reconciling, .deleting])) := by
  have hq := queue_of_reach h₀ run
  refine ⟨fun i j a b ha hb hab hma hmb => hq.mutation i j a b ha hb hma hmb hab,
    fun i j a b ha hb hab hma hmb => hq.capture i j a b ha hb hma hmb hab, hq.generation,
    fun k d hd => ?_⟩
  have hstate : d.observedState ∈ [.pending, .reconciling, .deleting] ↔
      d.observedState.transitional = true := by
    cases d.observedState <;> simp [ObservedState.transitional]
  rw [hstate]
  exact (hq.transitional k d hd).symm

theorem queue_invariant_deployedWorld :
    sampleOperation.mutates = true ∧
      sampleOperation.targetGeneration = sampleDeployment.generation :=
  ⟨by decide, (queue_invariant initial_sampleWorld
    (reach_deployedWorld trivial trivial trivial)).2.2.1 2 sampleOperation
    sampleDeployment (by decide) (by decide) (by decide)⟩

end ArchiDeal.Hosting
