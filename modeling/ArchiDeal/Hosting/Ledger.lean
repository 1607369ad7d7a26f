import ArchiDeal.Hosting.Deployments

/-!
# The history of a deployment

What the rows of the runtime tables say about each other in every state of every run.

* `operation_ledger`: the columns of an operation agree, and its controller failures are bounded;
* `overdue_passes_bounded`: past its deadline an operation is passed over at most four times;
* `generations_sequential`: the operations of a deployment are its generations, one after another;
* `one_live_deployment`: an application has one live deployment in each environment;
* `rows_durable`: no row is lost, and what it has counted stays counted.
-/

namespace ArchiDeal.Hosting

open Transition

variable {settings : Settings} {w w' : World} {l : Label} {i k : Uuid} {o o' : RuntimeOperation}
  {d d' : RuntimeDeployment}

/-! ### The columns of an operation -/

/-- What the columns of an operation say about each other. -/
structure RuntimeOperation.Ledger (o : RuntimeOperation) : Prop where
  leased : o.leaseToken.isSome = true → o.status = .running ∧ o.leaseExpiresAt.isSome = true ∧
    o.nextAttemptAt = none ∧ o.controllerFailures < o.attempts
  free : o.leaseToken = none → o.leaseExpiresAt = none
  started : o.startedAt.isSome = true ↔ 0 < o.attempts
  finished : o.finishedAt.isSome = true ↔ o.isActive = false
  ended : o.isActive = false → o.leaseToken = none ∧ o.nextAttemptAt = none
  failed : o.error.isSome = true ↔ o.status = .failed
  counted : o.controllerFailures ≤ o.attempts
  limit : o.controllerFailures ≤ maxControllerFailures
  retried : o.isActive = true → o.controllerFailures < maxControllerFailures

/-- The rule for operations: what holds of every operation holds after a step, if it survives every
transaction and holds of every operation that is requested. -/
theorem operations_step {P : RuntimeOperation → Prop} (hs : Sound w)
    (h : step settings w l = some w') (hP : ∀ i o, w.db.operations.lookup i = some o → P o)
    (hdid : ∀ i o o' d d', w.db.operations.lookup i = some o → Did w i o d l o' d' → P o → P o')
    (hnew : ∀ req k d type hash payload, P (newOperation req k d type hash payload w.clock)) :
    ∀ i o, w'.db.operations.lookup i = some o → P o := by
  intro i o ho
  cases step_tx hs.owned h with
  | quiet operations => exact hP i o (operations ▸ ho)
  | work found _ did saves =>
    rw [saves.operations] at ho
    split_ifs at ho
    · cases ho
      exact hdid _ _ _ _ _ found did (hP _ _ found)
    · exact hP i o ho
  | ask _ _ _ asked _ saves =>
    rw [saves.operations] at ho
    split_ifs at ho
    · cases ho
      cases asked <;> exact hnew ..
    · exact hP i o ho

theorem ledger_newOperation (req : Request) (type : OperationType) (hash : String)
    (payload : Payload) (now : Time) : (newOperation req k d type hash payload now).Ledger := by
  constructor <;> simp [newOperation, RuntimeOperation.isActive, maxControllerFailures]

theorem RuntimeOperation.Ledger.claim (h : o.Ledger) {worker : String} {token : Uuid} {now : Time}
    (hactive : o.isActive = true) : (claimOperation worker token now o).Ledger := by
  have hfinished : o.finishedAt = none := by simpa [hactive] using h.finished
  have herror : o.error = none := by
    have hne : o.status ≠ .failed := by rintro hf; simp [isActive, hf] at hactive
    simpa [hne] using h.failed
  have hcounted := h.counted
  constructor <;> simp [claimOperation, isActive, hfinished, herror, h.limit, h.retried hactive]
  · omega
  · omega

theorem RuntimeOperation.Ledger.done (h : o.Ledger) (hheld : o.leaseToken.isSome = true)
    (hended : o'.isActive = false) (hlease : o'.leaseToken = none ∧ o'.leaseExpiresAt = none)
    (hnext : o'.nextAttemptAt = o.nextAttemptAt ∨ o'.nextAttemptAt = none)
    (hfinished : o'.finishedAt.isSome = true) (hstarted : o'.startedAt = o.startedAt)
    (hattempts : o'.attempts = o.attempts) (herror : o'.error.isSome = true ↔ o'.status = .failed)
    (hcount : o'.controllerFailures ≤ o.controllerFailures + 1) : o'.Ledger := by
  obtain ⟨hrunning, -, hnone, hlt⟩ := h.leased hheld
  have hretried := h.retried (by simp [isActive, hrunning])
  rw [hnone, or_self] at hnext
  refine ⟨by simp [hlease], fun _ => hlease.2, ?_, iff_of_true hfinished hended,
    fun _ => ⟨hlease.1, hnext⟩, herror, by omega, by omega, by simp [hended]⟩
  rw [hstarted, hattempts]
  exact h.started

/-- The transaction that releases the lease of an operation that goes on. -/
theorem RuntimeOperation.Ledger.release (h : o.Ledger) (hheld : o.leaseToken.isSome = true)
    (hactive : o'.isActive = true) (hlease : o'.leaseToken = none ∧ o'.leaseExpiresAt = none)
    (hkept : o'.startedAt = o.startedAt ∧ o'.finishedAt = o.finishedAt ∧ o'.error = o.error ∧
      o'.attempts = o.attempts)
    (hcount : o'.controllerFailures ≤ o.controllerFailures + 1)
    (hlimit : o'.controllerFailures < maxControllerFailures) : o'.Ledger := by
  obtain ⟨hrunning, -, -, hlt⟩ := h.leased hheld
  obtain ⟨hstarted, hfinished, herror, hattempts⟩ := hkept
  have hopen : o.isActive = true := by simp [isActive, hrunning]
  have hne : o'.status ≠ .failed := by rintro hf; simp [isActive, hf] at hactive
  refine ⟨by simp [hlease], fun _ => hlease.2, ?_, ?_, by simp [hactive], ?_, by omega, hlimit.le,
    fun _ => hlimit⟩
  · rw [hstarted, hattempts]
    exact h.started
  · rw [hfinished, hactive, ← hopen]
    simpa [hopen] using h.finished
  · rw [herror]
    simpa [hne, hrunning] using h.failed

theorem Worked.ledger {clock : Time} {token : Uuid} {phase : Phase}
    (h : Worked clock token o d l phase o' d') (hheld : o.leaseToken = some token)
    (ho : o.Ledger) : o'.Ledger := by
  have hsome : o.leaseToken.isSome = true := by simp [hheld]
  have hretried := ho.retried (by simp [RuntimeOperation.isActive, (ho.leased hsome).1])
  cases h with
  | record _ recorded =>
    cases (recorded_of_recordSnapshot recorded).2.2.2 with
    | waiting =>
      exact ho.release hsome rfl ⟨rfl, rfl⟩ ⟨rfl, rfl, rfl, rfl⟩ (Nat.le_succ _) hretried
    | timedOut | unwanted | failed =>
      exact ho.done hsome rfl ⟨rfl, rfl⟩ (.inr rfl) rfl rfl rfl (iff_of_true rfl rfl)
        (Nat.le_succ _)
    | succeeded =>
      exact ho.done hsome rfl ⟨rfl, rfl⟩ (.inr rfl) rfl rfl rfl
        (by simp [RuntimeOperation.reconciled]) (Nat.le_succ _)
  | complete =>
    exact ho.done hsome rfl ⟨rfl, rfl⟩ (.inl rfl) rfl rfl rfl (by simp [completeLogs])
      (Nat.le_succ _)
  | controller failed =>
    unfold controllerFailure at failed
    split_ifs at failed with hretry <;> cases failed
    · exact ho.release hsome rfl ⟨rfl, rfl⟩ ⟨rfl, rfl, rfl, rfl⟩ le_rfl hretry.2
    all_goals
      exact ho.done hsome rfl ⟨rfl, rfl⟩ (.inl rfl) rfl rfl rfl (iff_of_true rfl rfl) le_rfl
  | unexpected failed =>
    cases failed
    exact ho.done hsome rfl ⟨rfl, rfl⟩ (.inl rfl) rfl rfl rfl (iff_of_true rfl rfl) (Nat.le_succ _)

theorem ledger_of_reach {w₀ : World} (h₀ : w₀.Initial) (run : Reach (step settings) Free w₀ w) :
    ∀ i o, w.db.operations.lookup i = some o → o.Ledger := by
  refine run.invariant (fun v => ∀ i o, v.db.operations.lookup i = some o → o.Ledger) ?_ ?_
  · intro i o ho
    rw [h₀.operations] at ho
    cases ho
  · intro v l v' hv ih _ hstep
    have hs := sound_of_reach h₀ hv
    refine operations_step hs hstep ih ?_ fun req k d type hash payload =>
      ledger_newOperation req type hash payload _
    intro j p p' d d' found did hp
    have hactive := did.isActive hs found
    cases did with
    | claim => exact hp.claim hactive
    | worked _ held work => exact work.ledger held hp

/-- **The ledger of an operation.** In every state of every run, an operation that is leased runs,
knows the end of its lease and waits for no other attempt; it has started exactly if it was claimed,
and it has an end exactly if it is no longer active, and then no lease and no next attempt; it has
an error exactly if it failed; and it counts at most one controller failure for each claim, at most
five in all, and fewer than five as long as it is active. -/
theorem operation_ledger {w₀ : World} (h₀ : w₀.Initial) (run : Reach (step settings) Free w₀ w)
    (ho : w.db.operations.lookup i = some o) :
    o.leaseExpiresAt.isSome = o.leaseToken.isSome ∧
    (o.leaseToken.isSome = true → o.status = .running ∧ o.nextAttemptAt = none) ∧
    (o.startedAt.isSome = true ↔ 0 < o.attempts) ∧
    (o.finishedAt.isSome = true ↔ o.isActive = false) ∧
    (o.isActive = false → o.leaseToken = none ∧ o.nextAttemptAt = none) ∧
    (o.error.isSome = true ↔ o.status = .failed) ∧
    o.controllerFailures ≤ min o.attempts 5 ∧
    (o.isActive = true → o.controllerFailures < 5) := by
  have h := ledger_of_reach h₀ run i o ho
  refine ⟨?_, fun hheld => ?_, h.started, h.finished, h.ended, h.failed,
    le_min h.counted h.limit, h.retried⟩
  · cases hlease : o.leaseToken with
    | none => simp [h.free hlease]
    | some token => simp [(h.leased (by simp [hlease])).2.1]
  · obtain ⟨hrunning, -, hnext, -⟩ := h.leased hheld
    exact ⟨hrunning, hnext⟩

theorem operation_ledger_deployedWorld : sampleOperation.finishedAt.isSome = false := by
  have h := (operation_ledger initial_sampleWorld (reach_deployedWorld trivial trivial trivial)
    (show deployedWorld.db.operations.lookup 2 = some sampleOperation by decide)).2.2.2.1
  rw [← Bool.not_eq_true, h]
  decide

/-! ### Passes after the deadline -/

/-- Has the time for the reconciliation of the operation run out at `now`? -/
def RuntimeOperation.overdue (o : RuntimeOperation) (now : Time) : Bool :=
  o.startedAt.any (· + maxReconciliationAge ≤ now)

/-- The transaction of a worker that gives up the lease of operation `i` after the deadline. -/
def overduePasses (settings : Settings) (i : Uuid) (w : World) (l : Label) : List Label :=
  match l with
  | .record token now | .fail token now =>
    let row := w.db.operations.lookup i
    let next := (step settings w l).bind (·.db.operations.lookup i)
    if row.any (fun o => o.leaseToken == some token && o.overdue now) &&
        next.any (·.leaseToken.isNone) then [l]
    else []
  | _ => []

theorem overduePasses_of_kept (h : step settings w l = some w')
    (hkeep : w'.db.operations.lookup i = w.db.operations.lookup i) :
    overduePasses settings i w l = [] := by
  unfold overduePasses
  split <;> try rfl
  all_goals
    simp only [h, Option.bind_some, hkeep]
    rw [if_neg]
    cases w.db.operations.lookup i with
    | none => simp
    | some o => cases ht : o.leaseToken <;> simp [ht]

/-- A report that is recorded after the deadline ends the operation. -/
theorem isActive_of_overdue {loaded : RuntimeOperation} {s : RuntimeSnapshot} {now clock : Time}
    (h : recordSnapshot loaded o d s now clock = .ok (o', d')) (hlate : o.overdue now = true) :
    o'.isActive = false := by
  obtain ⟨start, hstart, hle⟩ : ∃ start, o.startedAt = some start ∧
      start + maxReconciliationAge ≤ now := by
    simpa [RuntimeOperation.overdue, Option.any_eq_true] using hlate
  cases hrecorded : (recorded_of_recordSnapshot h).2.2.2 with
  | waiting =>
    unfold recordSnapshot at h
    split_ifs at h with hwait
    · obtain ⟨_, -, h⟩ := bind_eq_ok.1 h
      obtain ⟨_, -, h⟩ := bind_eq_ok.1 h
      rw [if_pos (by rw [hstart]; exact hle)] at h
      cases h
    · obtain ⟨_, -, h⟩ := bind_eq_ok.1 h
      obtain ⟨_, -, h⟩ := bind_eq_ok.1 h
      simp only at h
      split_ifs at h <;> cases h
  | _ => rfl

theorem length_overduePasses (i : Uuid) (w : World) (l : Label) :
    (overduePasses settings i w l).length ≤ 1 := by
  unfold overduePasses
  split <;> [skip; skip; simp]
  all_goals
    simp only
    split_ifs <;> simp

theorem overdue_of_passes {token : Uuid} {now : Time} (ho : w.db.operations.lookup i = some o)
    (h : overduePasses settings i w (.record token now) ≠ []) : o.overdue now = true := by
  by_contra hlate
  simp [overduePasses, ho, hlate] at h

/-- The passes after the deadline that left operation `i` active have each counted a failure. -/
def Passed (i : Uuid) (r : World × List Label) : Prop :=
  (r.1.db.operations.lookup i = none → r.2 = []) ∧
    ∀ o, r.1.db.operations.lookup i = some o → o.isActive = true →
      r.2.length ≤ o.controllerFailures

theorem Did.passed {passes : List Label} (ho : w.db.operations.lookup i = some o)
    (h : Did w i o d l o' d') (hactive' : o'.isActive = true)
    (hcount : passes.length ≤ o.controllerFailures) :
    (passes ++ overduePasses settings i w l).length ≤ o'.controllerFailures := by
  have hone : (overduePasses settings i w l).length ≤ 1 := length_overduePasses i w l
  rw [List.length_append]
  cases h with
  | claim => exact hcount
  | @worked _ token _ _ _ _ _ work =>
    cases work with
    | @record _ _ now _ _ _ recorded =>
      -- a pass after the deadline would have ended the operation
      have hnone : overduePasses settings i w (.record token now) = [] := by
        by_contra hpass
        rw [isActive_of_overdue recorded (overdue_of_passes ho hpass)] at hactive'
        cases hactive'
      rw [hnone]
      cases (recorded_of_recordSnapshot recorded).2.2.2 <;> exact hcount
    | complete => cases hactive'
    | controller failed =>
      unfold controllerFailure at failed
      split_ifs at failed <;> cases failed
      · exact Nat.add_le_add hcount hone
      all_goals cases hactive'
    | unexpected failed =>
      cases failed
      cases hactive'

theorem passed_step {r r' : World × List Label} (hs : Sound r.1) (hr : Passed i r)
    (h : recorded (step settings) (overduePasses settings i) r l = some r') : Passed i r' := by
  obtain ⟨hnext, hpasses⟩ := recorded_eq_some h
  obtain ⟨hnone, hcount⟩ := hr
  have hkept : r'.1.db.operations.lookup i = r.1.db.operations.lookup i → Passed i r' := by
    intro hkeep
    rw [Passed, hkeep, hpasses, overduePasses_of_kept hnext hkeep, List.append_nil]
    exact ⟨hnone, hcount⟩
  cases step_tx hs.owned hnext with
  | quiet operations => exact hkept (by rw [operations])
  | @work _ j p p' _ _ _ found _ did saves =>
    by_cases hj : i = j
    · subst hj
      have hrow := (saves.operations i).trans (if_pos rfl)
      refine ⟨fun hempty => (by cases hrow.symm.trans hempty), fun o ho hactive => ?_⟩
      cases hrow.symm.trans ho
      rw [hpasses]
      exact did.passed found hactive (hcount _ found (did.isActive hs found))
    · exact hkept ((saves.operations i).trans (if_neg hj))
  | @ask _ _ id _ _ _ _ _ _ _ _ _ newId _ _ saves =>
    by_cases hj : i = id
    · subst hj
      have hempty : r'.2 = [] := by rw [hpasses, hnone newId]; rfl
      exact ⟨fun _ => hempty, fun o _ _ => by simp [hempty]⟩
    · exact hkept ((saves.operations i).trans (if_neg hj))

/-- **Operations end after their deadline.** Half an hour after an operation was first claimed, at
most four more transactions of workers give up its lease and leave it active, whatever the
controller answers and however the workers interleave: a fifth one ends it. -/
theorem overdue_passes_bounded {w₀ : World} {passes : List Label} (h₀ : w₀.Initial)
    (run : Reach (recorded (step settings) (overduePasses settings i)) Free (w₀, []) (w, passes))
    (ho : w.db.operations.lookup i = some o) (hactive : o.isActive = true) : passes.length ≤ 4 := by
  obtain ⟨hreach, -, hcount⟩ :=
    run.invariant (fun r => Reach (step settings) Free w₀ r.1 ∧ Passed i r)
      ⟨.refl, fun _ => rfl, fun o ho => by rw [h₀.operations] at ho; cases ho⟩
      fun _ hr _ hstep => ⟨hr.1.tail trivial (recorded_eq_some hstep).1,
        passed_step (sound_of_reach h₀ hr.1) hr.2 hstep⟩
  have hlimit := (ledger_of_reach h₀ hreach i o ho).retried hactive
  have hpassed : passes.length ≤ o.controllerFailures := hcount o ho hactive
  simp only [maxControllerFailures] at hlimit
  omega

/-- The controller is unavailable for half an hour. -/
def sampleOutage : List Label :=
  [.begin 0 sampleCreate, .enter 0, .transact 0 1 2, .claim "a" 2 10 0, .load 10,
    .reply 10 (.error (.unavailable "down")), .tick (seconds 1800), .fail 10 (seconds 1800)]

theorem overdue_passes_bounded_sampleOutage :
    ∃ w o passes, runLabels (recorded (step sampleSettings) (overduePasses sampleSettings 2)) Free
        (sampleWorld, []) sampleOutage = some (w, passes) ∧
      w.db.operations.lookup 2 = some o ∧ o.isActive = true ∧ passes ≠ [] ∧ passes.length ≤ 4 := by
  have hrun : (runLabels (recorded (step sampleSettings) (overduePasses sampleSettings 2)) Free
      (sampleWorld, []) sampleOutage).any (fun r =>
        (r.1.db.operations.lookup 2).any (·.isActive) && r.2 != []) = true := by decide +kernel
  obtain ⟨⟨w, passes⟩, hr, hp⟩ := (Option.any_eq_true _ _).1 hrun
  obtain ⟨ho, hne⟩ := Bool.and_eq_true_iff.1 hp
  obtain ⟨o, ho, hactive⟩ := (Option.any_eq_true _ _).1 ho
  exact ⟨w, o, passes, hr, ho, hactive, by simpa using hne,
    overdue_passes_bounded initial_sampleWorld (reach_of_runLabels hr) ho hactive⟩

/-! ### Generations -/

section Generations

variable {db db' : Database} {g n : ℕ}

/-- Operation `i` asks for generation `g` of deployment `k`. -/
def Database.Asks (db : Database) (k : Uuid) (g : ℕ) (i : Uuid) : Prop :=
  ∃ o, db.operations.lookup i = some o ∧ o.deployment = k ∧ o.isLog = false ∧ o.targetGeneration = g

/-- The generations of deployment `k` that were asked for are `1, …, n`, each of them once. -/
def Database.Numbers (db : Database) (k : Uuid) (n : ℕ) : Prop :=
  ∀ g, (1 ≤ g → g ≤ n → ∃! i, db.Asks k g i) ∧ ((∃ i, db.Asks k g i) → 1 ≤ g ∧ g ≤ n)

theorem Saves.asks (saves : Saves db i o d db') {j : Uuid} : db'.Asks k g j ↔
    (j = i ∧ o.deployment = k ∧ o.isLog = false ∧ o.targetGeneration = g) ∨
      (j ≠ i ∧ db.Asks k g j) := by
  unfold Database.Asks
  rw [saves.operations]
  by_cases hj : j = i <;> simp [hj]

theorem Database.not_asks (hnew : db.operations.lookup i = none) : ¬ db.Asks k g i := by
  rintro ⟨p, hp, -⟩
  cases hnew.symm.trans hp

/-- A new operation that asks for no generation of the deployment. -/
theorem Saves.asks_other (saves : Saves db i o d db') (hnew : db.operations.lookup i = none)
    (hother : o.deployment = k → o.isLog = true) {j : Uuid} : db'.Asks k g j ↔ db.Asks k g j := by
  rw [saves.asks]
  constructor
  · rintro (⟨-, hk, hlog, -⟩ | ⟨-, h⟩)
    · cases hlog.symm.trans (hother hk)
    · exact h
  · intro h
    refine .inr ⟨?_, h⟩
    rintro rfl
    exact Database.not_asks hnew h

theorem Database.Numbers.congr (hn : db.Numbers k n)
    (h : ∀ g j, db'.Asks k g j ↔ db.Asks k g j) : db'.Numbers k n := by
  intro g
  simp only [h]
  exact hn g

theorem Database.Numbers.next (hn : db.Numbers o.deployment n)
    (hnew : db.operations.lookup i = none)
    (hlog : o.isLog = false) (htarget : o.targetGeneration = n + 1) (saves : Saves db i o d db') :
    db'.Numbers o.deployment (n + 1) := by
  intro g
  simp only [saves.asks, hlog, htarget, true_and]
  constructor
  · intro hpos hle
    by_cases hg : g = n + 1
    · subst hg
      refine ⟨i, by simp, fun j hj => ?_⟩
      rcases hj with ⟨hj, -⟩ | ⟨-, hj⟩
      · exact hj
      · have := ((hn (n + 1)).2 ⟨j, hj⟩).2
        omega
    · obtain ⟨j, hj, hone⟩ := (hn g).1 hpos (by omega)
      refine ⟨j, .inr ⟨fun hji => Database.not_asks hnew (hji ▸ hj), hj⟩, fun j' hj' => ?_⟩
      rcases hj' with ⟨-, hg'⟩ | ⟨-, hj'⟩
      · exact absurd hg'.symm hg
      · exact hone j' hj'
  · rintro ⟨j, ⟨-, hg⟩ | ⟨-, hj⟩⟩
    · omega
    · have := (hn g).2 ⟨j, hj⟩
      omega

theorem numbers_step (hs : Sound w) (h : step settings w l = some w')
    (hn : ∀ k d, w.db.deployments.lookup k = some d → w.db.Numbers k d.generation) :
    ∀ k d, w'.db.deployments.lookup k = some d → w'.db.Numbers k d.generation := by
  intro k d hd
  cases step_tx hs.owned h with
  | quiet operations deployments =>
    refine (hn k d (deployments ▸ hd)).congr fun g j => ?_
    simp only [Database.Asks, operations]
  | @work _ i o o' d₀ d' _ found owner did saves =>
    have horder := did.order
    have hasks : ∀ g j, w'.db.Asks k g j ↔ w.db.Asks k g j := by
      intro g j
      rw [saves.asks, deployment_of_order horder, isLog_of_order horder,
        targetGeneration_of_order horder]
      by_cases hj : j = i
      · subst hj
        simp [Database.Asks, found]
      · simp [hj]
    rw [saves.deployments, deployment_of_order horder] at hd
    split_ifs at hd with hk
    · cases hd
      subst hk
      obtain ⟨_, _, effect, -⟩ := did.effect hs found
      rw [effect.generation]
      exact (hn _ d₀ owner).congr hasks
    · exact (hn k d hd).congr hasks
  | @ask _ k₀ id _ _ _ o d' _ _ _ newKey newId asked _ saves =>
    rw [saves.deployments] at hd
    split_ifs at hd with hk
    · cases hd
      subst hk
      cases asked with
      | create =>
        refine Database.Numbers.next (n := 0) (fun g => ⟨by omega, ?_⟩) newId rfl rfl saves
        rintro ⟨j, p, hp, hk, -⟩
        obtain ⟨d, hd⟩ := hs.owned j p hp
        rw [hk] at hd
        cases newKey.symm.trans hd
      | request found _ _ requested =>
        rw [requested.generation]
        refine (hn _ _ found).next newId ?_ requested.generation saves
        simpa [RuntimeOperation.isLog, newOperation] using requested.type_ne
      | logs found =>
        exact (hn _ _ found).congr fun g j => saves.asks_other newId fun _ => rfl
    · exact (hn k d hd).congr fun g j => saves.asks_other newId fun h => absurd h.symm hk

end Generations

/-- **Generations are sequential.** In every state of every run, each generation of a deployment
from the first to the current one was asked for by exactly one operation, no other generation was,
and the operations of the earlier generations have ended. -/
theorem generations_sequential {w₀ : World} (h₀ : w₀.Initial)
    (run : Reach (step settings) Free w₀ w) (hd : w.db.deployments.lookup k = some d) :
    (∀ g, 1 ≤ g → g ≤ d.generation → ∃! i, ∃ o, w.db.operations.lookup i = some o ∧
      o.deployment = k ∧ o.isLog = false ∧ o.targetGeneration = g) ∧
    ∀ i o, w.db.operations.lookup i = some o → o.deployment = k → o.isLog = false →
      1 ≤ o.targetGeneration ∧ o.targetGeneration ≤ d.generation ∧
        (o.targetGeneration < d.generation → o.isActive = false) := by
  have hn := run.invariant
    (fun v => ∀ k d, v.db.deployments.lookup k = some d → v.db.Numbers k d.generation)
    (fun k d hd => by rw [h₀.deployments] at hd; cases hd)
    (fun hv hn _ hstep => numbers_step (sound_of_reach h₀ hv) hstep hn) k d hd
  refine ⟨fun g => (hn g).1, fun i o ho hk hlog => ?_⟩
  obtain ⟨hpos, hle⟩ := (hn _).2 ⟨i, o, ho, hk, hlog, rfl⟩
  refine ⟨hpos, hle, fun hlt => Bool.eq_false_iff.2 fun hactive => ?_⟩
  have hcurrent := (queue_of_reach h₀ run).generation i o d ho
    (RuntimeOperation.mutates_eq_true.2 ⟨hactive, hlog⟩) (hk ▸ hd)
  omega

theorem generations_sequential_deployedWorld :
    ∃! i, ∃ o, deployedWorld.db.operations.lookup i = some o ∧ o.deployment = 1 ∧
      o.isLog = false ∧ o.targetGeneration = 1 :=
  (generations_sequential initial_sampleWorld (reach_deployedWorld trivial trivial trivial)
    (show deployedWorld.db.deployments.lookup 1 = some sampleDeployment by decide)).1 1 le_rfl
    (by decide)

/-! ### Live deployments -/

theorem Turned.place (h : Turned settings w w' k l d d') : d'.application = d.application ∧
    d'.environment = d.environment ∧ (d'.deletedAt = none → d.deletedAt = none) := by
  cases h with
  | keep => exact ⟨rfl, rfl, id⟩
  | work _ _ _ _ _ _ effect =>
    cases effect with
    | @record _ s now _ _ _ _ _ _ recorded =>
      have happlied : (applySnapshot d s now w.clock).deletedAt = none → d.deletedAt = none := by
        simp only [applySnapshot]
        split_ifs <;> simp
      cases recorded with
      | waiting | timedOut => exact ⟨rfl, rfl, id⟩
      | unwanted | failed | succeeded => exact ⟨rfl, rfl, happlied⟩
    | keep => exact ⟨rfl, rfl, id⟩
    | fail => exact ⟨rfl, rfl, id⟩
  | request _ _ _ _ requested =>
    exact ⟨requested.application, requested.environment, fun h => requested.deletedAt ▸ h⟩

theorem deletedAt_of_createChecks {db : Database} {req : Request} {body : CreateBody}
    {app : HostedApplication} (h : createChecks db req body = .ok app)
    (hd : db.deployments.lookup k = some d) (happ : d.application = body.applicationId)
    (henv : d.environment = body.environment) : d.deletedAt ≠ none := by
  unfold createChecks at h
  split at h
  · cases h
  · obtain ⟨_, -, h⟩ := bind_eq_ok.1 h
    obtain ⟨_, hfree, -⟩ := bind_eq_ok.1 h
    have hnone := Table.any_eq_false.1 (by simpa using ensure_eq_ok.1 hfree) k d hd
    simpa [happ, henv, Option.isSome_iff_ne_none] using hnone

/-- **Live deployments are unique.** In every state of every run, an application has at most one
deployment in an environment that is not deleted. -/
theorem one_live_deployment {w₀ : World} {j : Uuid} {e : RuntimeDeployment} (h₀ : w₀.Initial)
    (run : Reach (step settings) Free w₀ w) (hd : w.db.deployments.lookup k = some d)
    (he : w.db.deployments.lookup j = some e) (happ : d.application = e.application)
    (henv : d.environment = e.environment) (hlive : d.deletedAt = none ∧ e.deletedAt = none) :
    k = j := by
  revert k j d e
  refine run.invariant (fun v => ∀ {k j : Uuid} {d e : RuntimeDeployment},
    v.db.deployments.lookup k = some d → v.db.deployments.lookup j = some e →
    d.application = e.application → d.environment = e.environment →
    d.deletedAt = none ∧ e.deletedAt = none → k = j) ?_ ?_
  · intro k j d e hd
    rw [h₀.deployments] at hd
    cases hd
  rintro v l v' hv ih - hstep k j d e hd he happ henv ⟨hdlive, helive⟩
  have hs := sound_of_reach h₀ hv
  -- a deployment that is created finds no live one, and nothing else is created beside it
  have hnew : ∀ {k j d e}, v.db.deployments.lookup k = none → v'.db.deployments.lookup k = some d →
      v'.db.deployments.lookup j = some e → d.application = e.application →
      d.environment = e.environment → e.deletedAt = none → k = j := by
    intro k j d e hnone hd he happ henv helive
    obtain ⟨id, req, hash, body, version, env, o, db₁, asked, writes⟩ :=
      deployment_new hs hstep hnone hd
    by_contra hne
    rw [writes.deployments, asked.deployment_eq, Job.target, if_neg (Ne.symm hne),
      asked.called.released.deployments] at he
    cases asked with
    | create checks => exact deletedAt_of_createChecks checks he happ.symm henv.symm helive
    | request _ _ _ requested => exact requested.admits
  cases hold : v.db.deployments.lookup k with
  | none => exact hnew hold hd he happ henv helive
  | some d₀ =>
    cases hold' : v.db.deployments.lookup j with
    | none => exact (hnew hold' he hd happ.symm henv.symm hdlive).symm
    | some e₀ =>
      obtain ⟨_, hd', hturned⟩ := turned_step hs hstep hold
      obtain ⟨_, he', hturned'⟩ := turned_step hs hstep hold'
      cases hd'.symm.trans hd
      cases he'.symm.trans he
      obtain ⟨ha, hb, hc⟩ := hturned.place
      obtain ⟨ha', hb', hc'⟩ := hturned'.place
      exact ih hold hold' (by rw [← ha, happ, ha']) (by rw [← hb, henv, hb'])
        ⟨hc hdlive, hc' helive⟩

theorem one_live_deployment_deployedWorld :
    ¬ ∃ k d, k ≠ 1 ∧ deployedWorld.db.deployments.lookup k = some d ∧
      d.application = sampleDeployment.application ∧
      d.environment = sampleDeployment.environment ∧ d.deletedAt = none := by
  rintro ⟨k, d, hne, hd, happ, henv, hlive⟩
  exact hne (one_live_deployment initial_sampleWorld (reach_deployedWorld trivial trivial trivial)
    hd (show deployedWorld.db.deployments.lookup 1 = some sampleDeployment by decide) happ henv
    ⟨hlive, rfl⟩)

/-! ### What stays -/

/-- The later row `o'` of an operation carries out the same order and has counted no less. The actor
is left out: the database clears it with its user. -/
def RuntimeOperation.Follows (o o' : RuntimeOperation) : Prop :=
  { o'.order with actor := o.actor } = o.order ∧ o.attempts ≤ o'.attempts ∧
    o.controllerFailures ≤ o'.controllerFailures ∧ ∀ t, o.startedAt = some t → o'.startedAt = some t

theorem Did.follows (h : Did w i o d l o' d') : o.Follows o' := by
  refine ⟨by rw [h.order]; rfl, ?_⟩
  cases h with
  | claim => exact ⟨Nat.le_succ _, le_rfl, fun t ht => by simp [claimOperation, ht]⟩
  | worked _ _ work =>
    cases work with
    | record _ recorded =>
      cases (recorded_of_recordSnapshot recorded).2.2.2 <;> exact ⟨le_rfl, le_rfl, fun _ => id⟩
    | complete => exact ⟨le_rfl, le_rfl, fun _ => id⟩
    | controller failed =>
      unfold controllerFailure at failed
      split_ifs at failed <;> cases failed <;> exact ⟨le_rfl, Nat.le_succ _, fun _ => id⟩
    | unexpected failed => cases failed; exact ⟨le_rfl, le_rfl, fun _ => id⟩

theorem follows_step (hs : Sound w) (h : step settings w l = some w')
    (ho : w.db.operations.lookup i = some o) :
    ∃ o', w'.db.operations.lookup i = some o' ∧ o.Follows o' := by
  have hrefl : o.Follows o := ⟨rfl, le_rfl, le_rfl, fun _ => id⟩
  cases step_tx hs.owned h with
  | quiet operations => exact ⟨o, by rw [operations, ho], hrefl⟩
  | @work _ j _ p' _ _ _ found _ did saves =>
    rw [saves.operations]
    split_ifs with hj
    · subst hj
      cases found.symm.trans ho
      exact ⟨p', rfl, did.follows⟩
    · exact ⟨o, ho, hrefl⟩
  | ask _ _ newId _ _ saves =>
    rw [saves.operations, if_neg (by rintro rfl; cases newId.symm.trans ho)]
    exact ⟨o, ho, hrefl⟩

/-- **Rows are durable.** Along every run from a reachable state, no operation is lost, its order
(deployment, type, payload, key, hash, generation, time) never changes, its attempts and
controller failures never decrease, and its start never moves; no deployment is lost, and it keeps
its application, its environment and the mark of its deletion. -/
theorem rows_durable {w₀ : World} (h₀ : w₀.Initial) (before : Reach (step settings) Free w₀ w)
    (run : Reach (step settings) Free w w') :
    (∀ i o, w.db.operations.lookup i = some o →
      ∃ o', w'.db.operations.lookup i = some o' ∧ o.Follows o') ∧
    ∀ k d, w.db.deployments.lookup k = some d → ∃ d', w'.db.deployments.lookup k = some d' ∧
      d'.application = d.application ∧ d'.environment = d.environment ∧
      (d'.deletedAt = none → d.deletedAt = none) := by
  constructor
  · intro i o ho
    refine run.invariant (fun v => ∃ o', v.db.operations.lookup i = some o' ∧ o.Follows o')
      ⟨o, ho, rfl, le_rfl, le_rfl, fun _ => id⟩ ?_
    rintro a l b ha ⟨p, hp, horder, hattempts, hfailures, hstart⟩ - hstep
    obtain ⟨q, hq, horder', hattempts', hfailures', hstart'⟩ :=
      follows_step (sound_of_reach h₀ (before.trans ha)) hstep hp
    exact ⟨q, hq, by rw [← horder, ← horder'], hattempts.trans hattempts',
      hfailures.trans hfailures', fun t ht => hstart' t (hstart t ht)⟩
  · intro k d hd
    refine run.invariant (fun v => ∃ d', v.db.deployments.lookup k = some d' ∧
      d'.application = d.application ∧ d'.environment = d.environment ∧
      (d'.deletedAt = none → d.deletedAt = none)) ⟨d, hd, rfl, rfl, id⟩ ?_
    rintro a l b ha ⟨e, he, happ, henv, hlive⟩ - hstep
    obtain ⟨e', he', turned⟩ := turned_step (sound_of_reach h₀ (before.trans ha)) hstep he
    obtain ⟨happ', henv', hlive'⟩ := turned.place
    exact ⟨e', he', happ'.trans happ, henv'.trans henv, hlive ∘ hlive'⟩

theorem rows_durable_claimed :
    ∃ w' o', step sampleSettings deployedWorld (.claim "a" 2 10 0) = some w' ∧
      w'.db.operations.lookup 2 = some o' ∧ sampleOperation.Follows o' := by
  obtain ⟨w', hw⟩ := Option.isSome_iff_exists.1
    (show (step sampleSettings deployedWorld (.claim "a" 2 10 0)).isSome = true by decide)
  obtain ⟨o', ho⟩ := (rows_durable initial_sampleWorld
    (reach_deployedWorld trivial trivial trivial) (.single trivial hw)).1 2 sampleOperation
    (by decide)
  exact ⟨w', o', hw, ho⟩

end ArchiDeal.Hosting
