import ArchiDeal.Hosting.Accept
import ArchiDeal.Hosting.System
import ArchiDeal.Lib.Transition

/-!
# What a step can do

The inversion of the step function, once for all properties of runs.

* `Moved`, `moved_of_sessionStep`: what a step of a session can do;
* `Change`, `step_change`: what a step can do;
* `Tx`, `step_tx`: what it can do to deployments and operations;
* `Sound`, `sound_of_reach`: the references between rows, sessions and tokens are in order.
-/

namespace ArchiDeal.Hosting

open Transition

/-! ### What a session does -/

/-- Every operation belongs to a deployment. -/
def Database.Owned (db : Database) : Prop :=
  ∀ i o, db.operations.lookup i = some o → ∃ d, db.deployments.lookup o.deployment = some d

/-- What a worker that holds the lease of `o` writes. -/
inductive Worked (clock : Time) (token : Uuid) (o : RuntimeOperation) (d : RuntimeDeployment) :
    Label → Phase → RuntimeOperation → RuntimeDeployment → Prop
  | record {l : Loaded} {s : RuntimeSnapshot} {now : Time} {o' : RuntimeOperation}
      {d' : RuntimeDeployment} (now_le : now ≤ clock)
      (recorded : recordSnapshot l.operation o d s now clock = .ok (o', d')) :
      Worked clock token o d (.record token now) (.recording l s) o' d'
  | complete {entry : LogEntry} :
      Worked clock token o d (.complete token) (.completing entry) (completeLogs o entry) d
  | controller {e : ControllerException} {now : Time} {o' : RuntimeOperation}
      {d' : RuntimeDeployment} (failed : controllerFailure o d e now clock = (o', d')) :
      Worked clock token o d (.fail token now) (.failing (.controller e)) o' d'
  | unexpected {now : Time} {o' : RuntimeOperation} {d' : RuntimeDeployment}
      (failed : unexpectedFailure o d now clock = (o', d')) :
      Worked clock token o d (.fail token now) (.failing .unexpected) o' d'

/-- What a step of the session under `token`, in the given phase, can do. -/
inductive Moved (w : World) (token i : Uuid) : Label → Phase → World → Prop
  | load : Moved w token i (.load token) .claimed
      (w.setPhase token i ((w.db.load i).elim .done executing))
  | reply {answer : Except ControllerException Json} {phase : Phase} :
      Moved w token i (.reply token answer) phase
        (w.setPhase token i (received w.clock answer phase))
  /-- The session ends, or goes on to report a failure. -/
  | leave {l : Label} {phase phase' : Phase} (h : phase' = .done ∨ ∃ e, phase' = .failing e) :
      Moved w token i l phase (w.setPhase token i phase')
  | cacheSet {entry : LogEntry} : Moved w token i (.cacheSet token) (.caching entry)
      { w.setPhase token i (.completing entry) with
        cache := w.cache.insert i (entry, w.clock + logTtl) }
  | discard {entry : LogEntry} {o : RuntimeOperation} (found : w.db.operations.lookup i = some o)
      (stale : o.leaseToken ≠ some token) : Moved w token i (.complete token) (.completing entry)
        { w.setPhase token i .done with cache := w.cache.erase i }
  | write {l : Label} {phase : Phase} {o o' : RuntimeOperation} {d d' : RuntimeDeployment}
      {db : Database} (found : w.db.operations.lookup i = some o)
      (owner : w.db.deployments.lookup o.deployment = some d)
      (held : o.leaseToken = some token) (work : Worked w.clock token o d l phase o' d')
      (writes : Writes w.db i o' d' db) :
      Moved w token i l phase ((w.withDb db).setPhase token i .done)

theorem Worked.order {clock : Time} {token : Uuid} {o o' : RuntimeOperation}
    {d d' : RuntimeDeployment} {l : Label} {phase : Phase}
    (h : Worked clock token o d l phase o' d') : o'.order = o.order := by
  cases h with
  | record _ recorded => exact (recorded_of_recordSnapshot recorded).2.2.2.order
  | complete => rfl
  | controller failed =>
    unfold controllerFailure at failed
    split_ifs at failed <;> cases failed <;> rfl
  | unexpected failed => cases failed; rfl

theorem raised_eq (phase : Phase) : raised phase = .done ∨ ∃ e, raised phase = .failing e := by
  cases phase <;> simp [raised]

section Steps

variable {settings : Settings} {w w' : World} {token i : Uuid} {l : Label} {phase : Phase}

theorem moved_leased {act : RuntimeOperation → RuntimeDeployment →
      Except Phase (RuntimeOperation × RuntimeDeployment)}
    (herr : ∀ o d phase', act o d = .error phase' → ∃ e, phase' = .failing e)
    (hok : ∀ o d o' d', act o d = .ok (o', d') → Worked w.clock token o d l phase o' d') :
    Moved w token i l phase (leased w token i phase act) := by
  unfold leased
  split
  · exact .leave (raised_eq phase)
  rename_i o ho
  split_ifs with hheld
  · exact .leave (.inl rfl)
  split
  · exact .leave (raised_eq phase)
  rename_i d hd
  split
  · rename_i phase' hact
    exact .leave (.inr (herr o d phase' hact))
  · rename_i o' d' hact
    have work := hok o d o' d' hact
    have hk := deployment_of_order work.order
    exact .write ho hd (not_not.1 hheld) work (Writes.both hk.symm)

theorem moved_recordAct {loaded : Loaded} {s : RuntimeSnapshot} {now : Time}
    (hnow : now ≤ w.clock) : Moved w token i (.record token now) (.recording loaded s)
      (leased w token i (.recording loaded s) (recordAct w loaded s now)) := by
  apply moved_leased
  · intro o d phase' h
    unfold recordAct at h
    split at h
    · cases h; exact ⟨_, rfl⟩
    · split_ifs at h
      cases h; exact ⟨_, rfl⟩
  · intro o d o' d' h
    unfold recordAct at h
    split at h
    · cases h
    · rename_i hrec
      split_ifs at h
      cases h
      exact .record hnow hrec

theorem moved_failAct {e : WorkerException} {now : Time} :
    Moved w token i (.fail token now) (.failing e)
      (leased w token i (.failing e) (failAct w e now)) := by
  apply moved_leased
  · intro o d phase' h
    cases e <;> cases h
  · intro o d o' d' h
    cases e with
    | controller e => exact .controller (Except.ok.inj h)
    | unexpected => exact .unexpected (Except.ok.inj h)

theorem moved_completeStep {entry : LogEntry} (hown : w.db.Owned) :
    Moved w token i (.complete token) (.completing entry) (completeStep w token i entry) := by
  unfold completeStep
  split
  · exact .leave (.inr ⟨_, rfl⟩)
  rename_i o ho
  split_ifs with hheld
  · exact .discard ho hheld
  · obtain ⟨d, hd⟩ := hown i o ho
    exact .write ho hd (not_not.1 hheld) .complete (Writes.operation hd)

/-- **Session steps.** What a step of a session can do. -/
theorem moved_of_sessionStep {session : Session} (hown : w.db.Owned) (hl : l.token = some token)
    (h : sessionStep w token l session = some w') :
    Moved w token session.operation l session.phase w' := by
  obtain ⟨i, phase⟩ := session
  cases l <;> simp only [Label.token, reduceCtorEq, Option.some.injEq] at hl
  all_goals subst hl
  case load t =>
    cases phase <;> simp only [sessionStep, reduceCtorEq, Option.some.injEq] at h
    subst h; exact .load
  case reply t answer =>
    cases phase <;> simp only [sessionStep, reduceCtorEq, Option.some.injEq] at h
    all_goals subst h; exact .reply
  case record t now =>
    cases phase <;> simp only [sessionStep, reduceCtorEq] at h
    split_ifs at h with hnow
    cases h
    exact moved_recordAct hnow
  case cacheSet t =>
    cases phase <;> simp only [sessionStep, reduceCtorEq, Option.some.injEq] at h
    subst h; exact .cacheSet
  case complete t =>
    cases phase <;> simp only [sessionStep, reduceCtorEq, Option.some.injEq] at h
    subst h; exact moved_completeStep hown
  case fail t now =>
    cases phase <;> simp only [sessionStep, reduceCtorEq] at h
    split_ifs at h with hnow
    cases h
    exact moved_failAct
  case raise t =>
    simp only [sessionStep, Option.some.injEq] at h
    subst h; exact .leave (raised_eq phase)
  case crash t =>
    simp only [sessionStep, Option.some.injEq] at h
    subst h; exact .leave (.inl rfl)

/-! ### What a step does -/

/-- What a step can do. -/
inductive Change (settings : Settings) (w : World) : Label → World → Prop
  | tick {now : Time} (later : w.clock ≤ now) :
    Change settings w (.tick now) { w with clock := now }
  | edit {e : Edit} {db : Database} (edited : applyEdit settings.engine w.db e = some db) :
      Change settings w (.edit e) (w.withDb db)
  | claim {worker : String} {i token : Uuid} {now : Time} {o : RuntimeOperation}
      (found : w.db.operations.lookup i = some o) (now_le : now ≤ w.clock)
      (fresh : w.sessions.lookup token = none) (free : o.claimable now = true) :
      Change settings w (.claim worker i token now)
        ((w.withDb (w.db.saveOperation i (claimOperation worker token now o))).setPhase token i
          .claimed)
  | session {l : Label} {token : Uuid} {s : Session} {w' : World}
      (found : w.sessions.lookup token = some s) (own : l.token = some token)
      (moved : Moved w token s.operation l s.phase w') : Change settings w l w'
  | begin {r : ℕ} {req : Request} {stage : Stage} (fresh : w.flights.lookup r = none)
      (prepared : (∃ response, stage = .answered response) ∨
        ∃ job hash, prepare settings w.db req = .ok (job, hash) ∧ stage = .prepared job hash) :
      Change settings w (.begin r req) (w.setStage r req stage)
  | enter {r : ℕ} {req : Request} {job : Job} {hash : String}
      (found : w.flights.lookup r = some ⟨req, .prepared job hash⟩)
      (free : lockedReplay w.db req job hash = none) :
      Change settings w (.enter r) (w.setStage r req (.entered job hash))
  /-- An answer that leaves no trace. -/
  | answer {l : Label} {r : ℕ} {flight : Flight} {response : Response}
      (found : w.flights.lookup r = some flight) (own : l.flight = some r)
      (waiting : flight.stage.isAnswered = false) :
      Change settings w l (w.setStage r flight.request (.answered response))
  | refuse {r : ℕ} {k id : Uuid} {req : Request} {job : Job} {hash : String} {db : Database}
      {response : Response} (found : w.flights.lookup r = some ⟨req, .entered job hash⟩)
      (returned : transact settings w.db req hash k id w.clock job = .returned db response) :
      Change settings w (.transact r k id) ((w.withDb db).setStage r req (.answered response))
  | accept {r : ℕ} {k id : Uuid} {req : Request} {job : Job} {hash : String}
      {o : RuntimeOperation} {d : RuntimeDeployment} {db₁ db : Database}
      (found : w.flights.lookup r = some ⟨req, .entered job hash⟩)
      (newKey : w.db.deployments.lookup k = none) (newId : w.db.operations.lookup id = none)
      (asked : Asked settings w.db req hash k w.clock job o d db₁)
      (free : w.db.operationConflict o = false) (writes : Writes db₁ id o d db) :
      Change settings w (.transact r k id)
        ((w.withDb db).setStage r req (.committed job (job.target k) d id o))

theorem Asked.deployment_eq {db db₁ : Database} {req : Request} {hash : String} {k : Uuid}
    {now : Time} {job : Job} {o : RuntimeOperation} {d : RuntimeDeployment}
    (h : Asked settings db req hash k now job o d db₁) : o.deployment = job.target k := by
  cases h <;> rfl

theorem change_of_transactStep {r : ℕ} {k id : Uuid} {req : Request} {job : Job} {hash : String}
    (found : w.flights.lookup r = some ⟨req, .entered job hash⟩)
    (h : transactStep settings w r req job hash k id = some w') :
    Change settings w (.transact r k id) w' := by
  unfold transactStep at h
  split_ifs at h with hfresh
  simp only [Option.isNone_iff_eq_none] at hfresh
  split at h
  · cases h; exact .answer found rfl rfl
  · rename_i hret
    cases h; exact .refuse found hret
  · rename_i db hacc
    obtain ⟨o, d, db₁, asked, free, writes⟩ := asked_of_transact hacc
    have hd : db.deployments.lookup (job.target k) = some d := by
      rw [writes.deployments, asked.deployment_eq, if_pos rfl]
    have ho : db.operations.lookup id = some o := by rw [writes.operations, if_pos rfl]
    rw [hd, ho] at h
    cases h
    exact .accept found hfresh.1 hfresh.2 asked free writes

theorem change_of_flightStep {r : ℕ} {flight : Flight} (found : w.flights.lookup r = some flight)
    (hl : l = .enter r ∨ (∃ k id, l = .transact r k id) ∨ l = .respond r ∨ l = .abort r)
    (h : flightStep settings w r l flight = some w') : Change settings w l w' := by
  obtain ⟨req, stage⟩ := flight
  rcases hl with rfl | ⟨k, id, rfl⟩ | rfl | rfl
  · cases stage <;> simp only [flightStep, reduceCtorEq, Option.some.injEq] at h
    subst h
    cases hrep : lockedReplay w.db req _ _ with
    | some response => exact .answer found rfl rfl
    | none => exact .enter found hrep
  · cases stage <;> simp only [flightStep, reduceCtorEq] at h
    exact change_of_transactStep found h
  · cases stage <;> simp only [flightStep, reduceCtorEq, Option.some.injEq] at h
    subst h; exact .answer found rfl rfl
  · cases stage <;> simp only [flightStep, reduceCtorEq, Option.some.injEq] at h
    all_goals subst h; exact .answer found rfl rfl

/-- **Steps.** Every step of the system is one of the changes of `Change`. -/
theorem step_change (hown : w.db.Owned) (h : step settings w l = some w') :
    Change settings w l w' := by
  have hsession : ∀ token, l.token = some token →
      (w.sessions.lookup token).bind (sessionStep w token l) = some w' →
        Change settings w l w' := by
    intro token hl h
    obtain ⟨s, hs, h⟩ := Option.bind_eq_some_iff.1 h
    exact .session hs hl (moved_of_sessionStep hown hl h)
  have hflight : ∀ r, (l = .enter r ∨ (∃ k id, l = .transact r k id) ∨ l = .respond r ∨
      l = .abort r) → (w.flights.lookup r).bind (flightStep settings w r l) = some w' →
        Change settings w l w' := by
    intro r hl h
    obtain ⟨f, hf, h⟩ := Option.bind_eq_some_iff.1 h
    exact change_of_flightStep hf hl h
  cases l with
  | tick now =>
    simp only [step] at h
    split_ifs at h with hle
    cases h; exact .tick hle
  | edit e =>
    obtain ⟨db, hdb, rfl⟩ := Option.map_eq_some_iff.1 h
    exact .edit hdb
  | claim worker i token now =>
    simp only [step, claimStep] at h
    split at h
    · cases h
    rename_i o ho
    split_ifs at h with hfree
    cases h
    exact .claim ho hfree.1 (Option.isNone_iff_eq_none.1 hfree.2.1) hfree.2.2
  | begin r req =>
    simp only [step] at h
    split_ifs at h with hfresh
    cases h
    refine .begin (Option.isNone_iff_eq_none.1 hfresh) ?_
    cases hp : prepare settings w.db req with
    | error response => exact .inl ⟨response, rfl⟩
    | ok p => exact .inr ⟨p.1, p.2, rfl, rfl⟩
  | load token | reply token | record token | cacheSet token | complete token | fail token
  | raise token | crash token => exact hsession token rfl h
  | enter r => exact hflight r (.inl rfl) h
  | transact r k id => exact hflight r (.inr (.inl ⟨k, id, rfl⟩)) h
  | respond r => exact hflight r (.inr (.inr (.inl rfl))) h
  | abort r => exact hflight r (.inr (.inr (.inr rfl))) h

/-! ### What a step does to deployments and operations -/

/-- A transaction on the existing operation `o` and its deployment `d`. -/
inductive Did (w : World) (i : Uuid) (o : RuntimeOperation) (d : RuntimeDeployment) :
    Label → RuntimeOperation → RuntimeDeployment → Prop
  | claim {worker : String} {token : Uuid} {now : Time} (now_le : now ≤ w.clock)
      (fresh : w.sessions.lookup token = none) (free : o.claimable now = true) :
      Did w i o d (.claim worker i token now) (claimOperation worker token now o) d
  | worked {l : Label} {token : Uuid} {phase : Phase} {o' : RuntimeOperation}
      {d' : RuntimeDeployment} (session : w.sessions.lookup token = some ⟨i, phase⟩)
      (held : o.leaseToken = some token) (work : Worked w.clock token o d l phase o' d') :
      Did w i o d l o' d'

/-- What a step can do to deployments and operations: nothing, or one transaction on an existing
operation, or one new operation. -/
inductive Tx (settings : Settings) (w : World) : Label → Database → Prop
  | quiet {l : Label} {db : Database} (operations : db.operations = w.db.operations)
      (deployments : db.deployments = w.db.deployments) : Tx settings w l db
  | work {l : Label} {i : Uuid} {o o' : RuntimeOperation} {d d' : RuntimeDeployment}
      {db : Database} (found : w.db.operations.lookup i = some o)
      (owner : w.db.deployments.lookup o.deployment = some d) (did : Did w i o d l o' d')
      (saves : Saves w.db i o' d' db) : Tx settings w l db
  | ask {r : ℕ} {k id : Uuid} {req : Request} {job : Job} {hash : String} {o : RuntimeOperation}
      {d : RuntimeDeployment} {db₁ db : Database}
      (flight : w.flights.lookup r = some ⟨req, .entered job hash⟩)
      (newKey : w.db.deployments.lookup k = none) (newId : w.db.operations.lookup id = none)
      (asked : Asked settings w.db req hash k w.clock job o d db₁)
      (free : w.db.operationConflict o = false) (saves : Saves w.db id o d db)
      (writes : Writes db₁ id o d db) : Tx settings w (.transact r k id) db

theorem Did.order {o o' : RuntimeOperation} {d d' : RuntimeDeployment}
    (h : Did w i o d l o' d') : o'.order = o.order := by
  cases h with
  | claim => rfl
  | worked _ _ work => exact work.order

theorem Moved.tx (found : w.sessions.lookup token = some ⟨i, phase⟩)
    (h : Moved w token i l phase w') : Tx settings w l w'.db := by
  cases h with
  | load => exact .quiet rfl rfl
  | reply => exact .quiet rfl rfl
  | leave => exact .quiet rfl rfl
  | cacheSet => exact .quiet rfl rfl
  | discard => exact .quiet rfl rfl
  | write ho hd held work writes => exact .work ho hd (.worked found held work) writes.toSaves

theorem applyEdit_quiet {engine : Engine} {db db' : Database} {e : Edit}
    (h : applyEdit engine db e = some db') :
    db'.operations = db.operations ∧ db'.deployments = db.deployments ∧ Keeps db db' := by
  cases e with
  | application => cases h; exact ⟨rfl, rfl, .of_eq rfl rfl⟩
  | module => cases h; exact ⟨rfl, rfl, .of_eq rfl rfl⟩
  | environment => cases h; exact ⟨rfl, rfl, .of_eq rfl rfl⟩
  | publish =>
    obtain ⟨app, snapshot, -, -, rfl⟩ := of_publish_eq_some h
    exact ⟨rfl, rfl, .of_versions rfl fun i v hv =>
      ⟨v, Table.lookup_insert_of_new (Table.lookup_nextKey _) hv, rfl, rfl⟩⟩

/-- **Transactions.** What a step does to deployments and operations. -/
theorem step_tx (hown : w.db.Owned) (h : step settings w l = some w') : Tx settings w l w'.db := by
  cases step_change hown h with
  | tick => exact .quiet rfl rfl
  | edit edited => exact .quiet (applyEdit_quiet edited).1 (applyEdit_quiet edited).2.1
  | @claim _ i _ _ o found now_le fresh free =>
    obtain ⟨d, hd⟩ := hown i o found
    exact .work found hd (.claim now_le fresh free)
      (Writes.operation (o := claimOperation _ _ _ o) hd).toSaves
  | session found _ moved => exact moved.tx found
  | begin => exact .quiet rfl rfl
  | enter => exact .quiet rfl rfl
  | answer => exact .quiet rfl rfl
  | refuse _ returned =>
    have hr := (called_of_returned returned).released
    exact .quiet hr.operations hr.deployments
  | accept found newKey newId asked free writes =>
    have hr := asked.called.released
    have saves := writes.toSaves.of_eq hr.operations hr.deployments
    exact .ask found newKey newId asked free saves writes

theorem Saves.owned {db db' : Database} {o : RuntimeOperation} {d : RuntimeDeployment}
    (hown : db.Owned) (h : Saves db i o d db') : db'.Owned := by
  intro j p hp
  rw [h.operations] at hp
  rw [h.deployments]
  split_ifs at hp with hj
  · cases hp
    exact ⟨d, if_pos rfl⟩
  · by_cases hk : p.deployment = o.deployment
    · exact ⟨d, if_pos hk⟩
    · rw [if_neg hk]
      exact hown j p hp

theorem owned_step (hown : w.db.Owned) (h : step settings w l = some w') : w'.db.Owned := by
  cases step_tx hown h with
  | quiet operations deployments =>
    intro j p hp
    rw [operations] at hp
    rw [deployments]
    exact hown j p hp
  | work _ _ _ saves => exact saves.owned hown
  | ask _ _ _ _ _ saves => exact saves.owned hown

/-! ### References -/

theorem order_step (hown : w.db.Owned) (h : step settings w l = some w') {o : RuntimeOperation}
    (ho : w.db.operations.lookup i = some o) :
    ∃ o', w'.db.operations.lookup i = some o' ∧ o'.order = o.order := by
  cases step_tx hown h with
  | quiet operations => exact ⟨o, by rw [operations, ho], rfl⟩
  | @work _ j p p' _ _ _ found _ did saves =>
    by_cases hij : i = j
    · subst hij
      cases found.symm.trans ho
      exact ⟨p', by rw [saves.operations, if_pos rfl], did.order⟩
    · exact ⟨o, by rw [saves.operations, if_neg hij, ho], rfl⟩
  | @ask _ _ id _ _ _ _ _ _ _ _ _ newId _ _ saves =>
    have hij : i ≠ id := by
      rintro rfl
      rw [newId] at ho
      cases ho
    exact ⟨o, by rw [saves.operations, if_neg hij, ho], rfl⟩

/-- What a phase says about the operation of its session. -/
def Phase.fits (o : RuntimeOperation) : Phase → Prop
  | .calling loaded _ | .recording loaded _ => loaded.operation.order = o.order ∧ o.isLog = false
  | .capturing loaded _ _ _ => loaded.operation.order = o.order ∧ o.isLog = true
  | .caching _ | .completing _ => o.isLog = true
  | .claimed | .failing _ | .done => True

theorem isLog_of_order {o o' : RuntimeOperation} (h : o'.order = o.order) : o'.isLog = o.isLog :=
  congrArg (· == .logSnapshot) (operationType_of_order h)

theorem Phase.fits_of_order {o o' : RuntimeOperation} (h : o'.order = o.order) (hf : phase.fits o) :
    phase.fits o' := by
  cases phase <;> simp only [Phase.fits, isLog_of_order h, h] at hf ⊢ <;> exact hf

theorem fits_executing {o : RuntimeOperation} {loaded : Loaded}
    (ho : w.db.operations.lookup i = some o) (hl : w.db.load i = some loaded) :
    (executing loaded).fits o := by
  have hop : loaded.operation = o := by
    obtain ⟨o', ho', hl⟩ := Option.bind_eq_some_iff.1 hl
    obtain ⟨d, -, hl⟩ := Option.bind_eq_some_iff.1 hl
    obtain ⟨r, -, hl⟩ := Option.bind_eq_some_iff.1 hl
    obtain ⟨e, -, hl⟩ := Option.bind_eq_some_iff.1 hl
    cases hl
    exact Option.some.inj (ho'.symm.trans ho)
  unfold executing
  split_ifs with hlog
  · split
    · exact ⟨congrArg _ hop, hop ▸ hlog⟩
    · trivial
  · split
    · exact ⟨congrArg _ hop, hop ▸ Bool.not_eq_true _ ▸ hlog⟩
    · trivial

theorem fits_received {o : RuntimeOperation} {now : Time} {answer : Except ControllerException Json}
    (hf : phase.fits o) : (received now answer phase).fits o := by
  cases phase with
  | calling loaded call =>
    simp only [received]
    split
    · exact hf
    · split_ifs
      · exact hf
      · trivial
  | capturing loaded component tail sinceSeconds =>
    simp only [received]
    split
    · exact hf.2
    · trivial
  | _ => exact hf

/-- A step of a session moves it to a phase that fits its operation. -/
theorem Moved.fits {o : RuntimeOperation} (h : Moved w token i l phase w')
    (ho : w.db.operations.lookup i = some o) (hf : phase.fits o) :
    ∃ phase', w'.sessions = w.sessions.insert token ⟨i, phase'⟩ ∧ phase'.fits o := by
  cases h with
  | load =>
    refine ⟨_, rfl, ?_⟩
    cases hl : w.db.load i with
    | none => trivial
    | some loaded => exact fits_executing ho hl
  | reply => exact ⟨_, rfl, fits_received hf⟩
  | leave h =>
    refine ⟨_, rfl, ?_⟩
    rcases h with rfl | ⟨e, rfl⟩ <;> trivial
  | cacheSet => exact ⟨_, rfl, hf⟩
  | discard => exact ⟨_, rfl, trivial⟩
  | write => exact ⟨_, rfl, trivial⟩

theorem Worked.leaseToken {clock : Time} {o o' : RuntimeOperation} {d d' : RuntimeDeployment}
    (h : Worked clock token o d l phase o' d') : o'.leaseToken = none := by
  cases h with
  | record _ recorded => exact (recorded_of_recordSnapshot recorded).2.2.2.leaseToken
  | complete => rfl
  | controller failed =>
    unfold controllerFailure at failed
    split_ifs at failed <;> cases failed <;> rfl
  | unexpected failed => cases failed; rfl

/-- What a transaction of a worker does to the deployment of its operation: it records a report,
leaves the row alone, or marks it as failed. -/
inductive Effect (clock : Time) (token : Uuid) (o : RuntimeOperation) (d : RuntimeDeployment) :
    Label → Phase → RuntimeOperation → RuntimeDeployment → Prop
  | record {loaded : Loaded} {s : RuntimeSnapshot} {now : Time} {o' : RuntimeOperation}
      {d' : RuntimeDeployment} (mutation : o.isLog = false)
      (le_target : s.observedGeneration ≤ o.targetGeneration)
      (le_observed : d.observedGeneration ≤ s.observedGeneration)
      (components : checkComponents d.components s = .ok ())
      (recorded : Recorded loaded.operation o d s now clock o' d') :
      Effect clock token o d (.record token now) (.recording loaded s) o' d'
  | keep {l : Label} {phase : Phase} {o' : RuntimeOperation}
      (log : o'.isActive = false → o.isLog = true) : Effect clock token o d l phase o' d
  | fail {l : Label} {phase : Phase} {o' : RuntimeOperation} {detail : String}
      (mutation : o.isLog = false) (failed : o'.status = .failed) :
      Effect clock token o d l phase o' (failDeployment d detail clock)

theorem Worked.effect {clock : Time} {o o' : RuntimeOperation} {d d' : RuntimeDeployment}
    (h : Worked clock token o d l phase o' d') (hf : phase.fits o) :
    Effect clock token o d l phase o' d' := by
  cases h with
  | record _ recorded =>
    obtain ⟨hle, hge, hcomponents, hrec⟩ := recorded_of_recordSnapshot recorded
    exact .record hf.2 hle hge hcomponents hrec
  | complete => exact .keep fun _ => hf
  | controller failed =>
    unfold controllerFailure at failed
    split_ifs at failed with hretry hlog
    · cases failed; exact .keep nofun
    · cases failed; exact .keep fun _ => hlog
    · cases failed; exact .fail (Bool.not_eq_true _ ▸ hlog) rfl
  | unexpected failed =>
    unfold unexpectedFailure at failed
    split_ifs at failed with hlog
    · cases failed; exact .keep fun _ => hlog
    · cases failed; exact .fail (Bool.not_eq_true _ ▸ hlog) rfl

/-- The references between rows, sessions and tokens: operations have deployments, sessions fit
their operations, and a lease token is that of a session on the operation, which is running. -/
structure Sound (w : World) : Prop where
  owned : w.db.Owned
  attached : ∀ t i phase, w.sessions.lookup t = some ⟨i, phase⟩ →
    ∃ o, w.db.operations.lookup i = some o ∧ phase.fits o
  leased : ∀ i o t, w.db.operations.lookup i = some o → o.leaseToken = some t →
    o.status = .running ∧ ∃ phase, w.sessions.lookup t = some ⟨i, phase⟩

/-- What a step does to the sessions: nothing, or it moves one of them, or it opens one. -/
theorem sessions_step (hs : Sound w) (h : step settings w l = some w') :
    w'.sessions = w.sessions ∨ ∃ t j o phase, w'.sessions = w.sessions.insert t ⟨j, phase⟩ ∧
      w.db.operations.lookup j = some o ∧ phase.fits o ∧
      ∀ s, w.sessions.lookup t = some s → s.operation = j := by
  cases step_change hs.owned h with
  | tick => exact .inl rfl
  | edit => exact .inl rfl
  | claim found _ fresh =>
    refine .inr ⟨_, _, _, .claimed, rfl, found, trivial, fun s h => ?_⟩
    rw [fresh] at h
    cases h
  | @session _ t s _ found _ moved =>
    obtain ⟨o, ho, hf⟩ := hs.attached t s.operation s.phase found
    obtain ⟨phase, hw, hf⟩ := moved.fits ho hf
    refine .inr ⟨t, _, o, phase, hw, ho, hf, fun s' h => ?_⟩
    rw [found] at h
    cases h; rfl
  | begin => exact .inl rfl
  | enter => exact .inl rfl
  | answer => exact .inl rfl
  | refuse => exact .inl rfl
  | accept => exact .inl rfl

theorem session_kept (hs : Sound w) (h : step settings w l = some w')
    (hp : w.sessions.lookup token = some ⟨i, phase⟩) :
    ∃ phase', w'.sessions.lookup token = some ⟨i, phase'⟩ := by
  rcases sessions_step hs h with heq | ⟨t, j, o, phase', heq, -, -, hop⟩
  · exact ⟨phase, by rw [heq, hp]⟩
  · rw [heq, Table.lookup_insert_eq]
    split_ifs with ht
    · subst ht
      have hij : i = j := hop _ hp
      exact ⟨phase', by rw [hij]⟩
    · exact ⟨phase, hp⟩

theorem session_of_claim {worker : String} {now : Time}
    (h : step settings w (.claim worker i token now) = some w') :
    w'.sessions.lookup token = some ⟨i, .claimed⟩ := by
  simp only [step, claimStep] at h
  split at h
  · cases h
  split_ifs at h
  cases h
  simp [World.setPhase]

theorem sound_step (hs : Sound w) (h : step settings w l = some w') : Sound w' where
  owned := owned_step hs.owned h
  attached := by
    -- the operation of a session keeps its row and its order
    have hkeep : ∀ {j o} {phase : Phase}, w.db.operations.lookup j = some o → phase.fits o →
        ∃ o', w'.db.operations.lookup j = some o' ∧ phase.fits o' := by
      intro j o phase ho hf
      obtain ⟨o', ho', horder⟩ := order_step hs.owned h ho
      exact ⟨o', ho', Phase.fits_of_order horder hf⟩
    intro t j phase hp
    rcases sessions_step hs h with heq | ⟨t', j', o, phase', heq, ho, hf, -⟩
    · rw [heq] at hp
      obtain ⟨o, ho, hf⟩ := hs.attached t j phase hp
      exact hkeep ho hf
    · rw [heq, Table.lookup_insert_eq] at hp
      split_ifs at hp
      · cases hp
        exact hkeep ho hf
      · obtain ⟨o, ho, hf⟩ := hs.attached t j phase hp
        exact hkeep ho hf
  leased := by
    -- a row that was not written keeps its token, whose session is still there
    have hold : ∀ {j o t}, w.db.operations.lookup j = some o → o.leaseToken = some t →
        o.status = .running ∧ ∃ phase, w'.sessions.lookup t = some ⟨j, phase⟩ := by
      intro j o t ho ht
      obtain ⟨hrun, phase, hp⟩ := hs.leased j o t ho ht
      exact ⟨hrun, session_kept hs h hp⟩
    intro j o t ho ht
    cases step_tx hs.owned h with
    | quiet operations => exact hold (operations ▸ ho) ht
    | work _ _ did saves =>
      rw [saves.operations] at ho
      split_ifs at ho with hj
      · subst hj
        cases ho
        cases did with
        | claim =>
          cases ht
          exact ⟨rfl, .claimed, session_of_claim h⟩
        | worked _ _ work =>
          rw [work.leaseToken] at ht
          cases ht
      · exact hold ho ht
    | ask _ _ _ asked _ saves =>
      rw [saves.operations] at ho
      split_ifs at ho
      · cases ho
        cases asked <;> cases ht
      · exact hold ho ht

theorem World.Initial.sound (h : w.Initial) : Sound w := by
  refine ⟨fun i o ho => ?_, fun t i phase hp => ?_, fun i o t ho _ => ?_⟩
  · rw [h.operations] at ho; cases ho
  · rw [h.sessions] at hp; cases hp
  · rw [h.operations] at ho; cases ho

/-- **The references are in order** in every state of every run. -/
theorem sound_of_reach {w₀ : World} (h₀ : w₀.Initial) (h : Reach (step settings) Free w₀ w) :
    Sound w :=
  h.invariant Sound h₀.sound fun _ hs _ hstep => sound_step hs hstep

end Steps

/-! ### A sample run

An application with one module, and the request that deploys it. -/

/-- The reviewed profile of the module. -/
def sampleSpec : Json :=
  .obj [("container_port", .int 80), ("healthcheck_path", .str "/"), ("kind", .str "deployment"),
    ("resources", .obj [
      ("limits", .obj [("cpu", .str "1"), ("memory", .str "1Gi")]),
      ("requests", .obj [("cpu", .str "1"), ("memory", .str "1Gi")])])]

def sampleSpecDigest : String :=
  "d309a6aa93f7dc0ece04cd52893c0bd5e55569ec3ba1a8be1aa388224e231490"

def sampleImage : String :=
  "ghcr.io/api@sha256:0000000000000000000000000000000000000000000000000000000000000000"

/-- The application in snapshots and manifests. -/
def sampleApplication : Json := .obj [("id", .int 1), ("slug", .str "app")]

/-- The runtime snapshot of the published version. -/
def sampleSnapshot : Json :=
  .obj [("schema_version", .int 1), ("application", sampleApplication),
    ("modules", .arr [.obj [("module_id", .int 1), ("slug", .str "api"),
      ("image", .str sampleImage), ("enabled", .bool true),
      ("deployment_target", .str "kubernetes"),
      ("profile", .obj [("schema_version", .int 1), ("spec", sampleSpec),
        ("spec_digest", .str sampleSpecDigest), ("enabled", .bool true),
        ("verified_at", .str "1970-01-01T00:00:00+00:00")])]])]

def sampleManifest : Json :=
  .obj [("schema_version", .int 1), ("application", sampleApplication),
    ("version", .str "1.0.0"), ("version_source", .str "manual"),
    ("modules", .arr [.obj [("module_id", .int 1), ("slug", .str "api"),
      ("image", .str sampleImage), ("profile_schema_version", .int 1),
      ("profile_digest", .str sampleSpecDigest), ("spec", sampleSpec)]])]

/-- An environment that allows everything the module needs. -/
def sampleEnvironment : RuntimeEnvironment :=
  { orchestrator := "kubernetes"
    enabled := true
    capabilities := .obj [("start_stop", .bool true), ("restart", .bool true),
      ("scaling", .obj [("fixed", .obj [("min_replicas", .int 1), ("max_replicas", .int 10)])]),
      ("logs", .obj [("max_lines", .int 1000)])]
    policy := .obj [("requires_image_digest", .bool true), ("stateless_only", .bool true),
      ("allowed_registries", .arr [.str "ghcr.io/"]), ("allowed_secret_refs", .arr [])] }

/-- The catalogue, and nothing deployed. -/
def sampleDb : Database :=
  { applications := (∅ : Table ℕ HostedApplication).insert 1 ⟨"App", "app", [], "1.0.0", true, 1⟩
    modules := ∅
    versions := (∅ : Table ℕ ApplicationVersion).insert 1 ⟨1, "1.0.0", "", "manual",
      sampleSnapshot, "48c8339572d6e8aeb4934eb00867c59d218e9681bbc72c9cf1cc0e2b9dcc1e83"⟩
    environments := (∅ : Table String RuntimeEnvironment).insert "prod" sampleEnvironment
    releases := ∅
    deployments := ∅
    operations := ∅ }

/-- The initial state. -/
def sampleWorld : World :=
  { clock := 0, db := sampleDb, cache := ∅, sessions := ∅, flights := ∅ }

/-- The runtime is on. -/
def sampleSettings : Settings := ⟨true, .sqlite⟩

def sampleBody : CreateBody := { applicationId := 1, environment := "prod" }

/-- The request. -/
def sampleCreate : Request :=
  { endpoint := .create (.ok sampleBody)
    idempotencyKey := some "create-1"
    ifMatch := some "\"1\"" }

def sampleDeployment : RuntimeDeployment :=
  newDeployment sampleCreate sampleBody 1 [("api", .fixed 1)] [] []
    [{ moduleId := 1, slug := "api", imageDigest := sampleImage, desiredReplicas := 1 }] 0

def sampleHash : String := "ec6c0174a4025c28893b4d5002513055d0369734cb7add7f30f452ba22ff096d"

def sampleOperation : RuntimeOperation :=
  newOperation sampleCreate 1 sampleDeployment .deploy sampleHash {} 0

def sampleJob : Job := .create sampleBody "1.0.0" sampleEnvironment

/-- The state before the transaction of the request. -/
def requestedWorld (stage : Stage) : World :=
  { sampleWorld with flights := (∅ : Table ℕ Flight).insert 0 ⟨sampleCreate, stage⟩ }

/-- The state after the transaction of the request. -/
def deployedWorld : World :=
  { requestedWorld (.committed sampleJob 1 sampleDeployment 2 sampleOperation) with
    db := { sampleDb with
      releases := (∅ : Table ℕ RuntimeRelease).insert 1
        ⟨1, sampleManifest, "3886021dcfae38cfe015a0ce43b27b3d7bf303d1e5d8543cfdb5578669ec2342"⟩
      deployments := (∅ : Table Uuid RuntimeDeployment).insert 1 sampleDeployment
      operations := (∅ : Table Uuid RuntimeOperation).insert 2 sampleOperation } }

def sampleReport (state : String) (generation : ℤ) (components : List Json) : Json :=
  .obj [("id", .str "00000000-0000-0000-0000-000000000001"), ("state", .str state),
    ("observed_generation", .int generation), ("components", .arr components)]

/-- What the controller reports on the component of the sample deployment. -/
def sampleComponent : Json :=
  .obj [("slug", .str "api"), ("image_digest", .str sampleImage), ("state", .str "running"),
    ("health", .str "healthy"), ("desired_replicas", .int 1), ("ready_replicas", .int 1),
    ("available_replicas", .int 1), ("restart_count", .int 0)]

def sampleDeploy : List Label :=
  [.claim "a" 2 10 0, .load 10, .reply 10 (.ok (sampleReport "running" 1 [sampleComponent])),
    .record 10 0]

/-- A request to remove the sample deployment. -/
def sampleDestroy : Request :=
  { endpoint := .destroy (some 1)
    idempotencyKey := some "destroy-1"
    ifMatch := some "\"2\"" }

theorem initial_sampleWorld : sampleWorld.Initial := ⟨rfl, rfl, rfl, rfl, rfl, rfl⟩

theorem step_begin_sampleWorld : step sampleSettings sampleWorld (.begin 0 sampleCreate) =
    some (requestedWorld (.prepared sampleJob sampleHash)) := by
  decide +kernel

theorem step_enter_requestedWorld :
    step sampleSettings (requestedWorld (.prepared sampleJob sampleHash)) (.enter 0) =
      some (requestedWorld (.entered sampleJob sampleHash)) := by
  decide +kernel

theorem step_transact_requestedWorld :
    step sampleSettings (requestedWorld (.entered sampleJob sampleHash)) (.transact 0 1 2) =
      some deployedWorld := by
  decide +kernel

/-- The sample run, under any condition that its three steps satisfy. -/
theorem reach_deployedWorld {ok : World → Label → Prop}
    (hbegin : ok sampleWorld (.begin 0 sampleCreate))
    (henter : ok (requestedWorld (.prepared sampleJob sampleHash)) (.enter 0))
    (htransact : ok (requestedWorld (.entered sampleJob sampleHash)) (.transact 0 1 2)) :
    Reach (step sampleSettings) ok sampleWorld deployedWorld :=
  ((Reach.single hbegin step_begin_sampleWorld).tail henter step_enter_requestedWorld).tail
    htransact step_transact_requestedWorld

end ArchiDeal.Hosting
