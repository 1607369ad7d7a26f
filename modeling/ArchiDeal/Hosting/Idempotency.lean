import ArchiDeal.Hosting.Deployments
import ArchiDeal.Hosting.Refusal

/-!
# Idempotency keys

The key of a request is looked up before its transaction and again under the lock, and it is unique
in the table of operations: a request that gets past both looks while another one takes the key
breaks the constraint, and its transaction is rolled back.

* `Database.Unique`, `unique_of_reach`: no two operations have the same key;
* `replay_of_held`: what the two looks answer when the key is taken;
* `Settled`, `settled_of_answered`: a request that is answered takes no further step.
-/

namespace ArchiDeal.Hosting

open Transition

variable {settings : Settings} {w w' : World} {l : Label} {i : Uuid} {o : RuntimeOperation}
  {db db₁ : Database} {req : Request} {hash : String} {r : ℕ} {response : Response}

/-! ### Keys are unique -/

/-- No two operations have the same key. -/
def Database.Unique (db : Database) : Prop :=
  ∀ i j a b, db.operations.lookup i = some a → db.operations.lookup j = some b →
    a.idempotencyKey = b.idempotencyKey → i = j

theorem Asked.idempotencyKey {k : Uuid} {now : Time} {job : Job} {d : RuntimeDeployment}
    (h : Asked settings db req hash k now job o d db₁) : o.idempotencyKey = req.key.getD "" := by
  cases h <;> rfl

theorem Database.ne_of_operationConflict (h : db.operationConflict o = false) {p : RuntimeOperation}
    (hp : db.operations.lookup i = some p) : p.idempotencyKey ≠ o.idempotencyKey := by
  rw [Database.operationConflict, Bool.or_eq_false_iff] at h
  exact beq_eq_false_iff_ne.1 (Table.any_eq_false.1 h.1 i p hp)

theorem unique_step (hs : Sound w) (hu : w.db.Unique) (h : step settings w l = some w') :
    w'.db.Unique := by
  cases step_tx hs.owned h with
  | quiet operations =>
    unfold Database.Unique
    rw [operations]
    exact hu
  | @work _ n p p' _ _ _ found _ did saves =>
    have hkey : p'.idempotencyKey = p.idempotencyKey := congrArg Order.idempotencyKey did.order
    -- every row had its key before the step
    have hold : ∀ i a, w'.db.operations.lookup i = some a →
        ∃ a₀, w.db.operations.lookup i = some a₀ ∧ a.idempotencyKey = a₀.idempotencyKey := by
      intro i a ha
      rw [saves.operations] at ha
      split_ifs at ha with hi
      · cases ha
        exact ⟨p, hi ▸ found, hkey⟩
      · exact ⟨a, ha, rfl⟩
    intro i j a b ha hb hab
    obtain ⟨a₀, ha₀, hka⟩ := hold i a ha
    obtain ⟨b₀, hb₀, hkb⟩ := hold j b hb
    exact hu i j a₀ b₀ ha₀ hb₀ (hka.symm.trans (hab.trans hkb))
  | ask _ _ _ _ free saves =>
    intro i j a b ha hb hab
    rw [saves.operations] at ha hb
    split_ifs at ha hb with hi hj hj
    · rw [hi, hj]
    · cases ha
      exact absurd hab.symm (Database.ne_of_operationConflict free hb)
    · cases hb
      exact absurd hab (Database.ne_of_operationConflict free ha)
    · exact hu i j a b ha hb hab

theorem unique_of_reach {w₀ : World} (h₀ : w₀.Initial) (h : Reach (step settings) Free w₀ w) :
    w.db.Unique := by
  refine h.invariant (fun v => v.db.Unique) (fun i j a b ha => ?_) fun run hu _ next => ?_
  · rw [h₀.operations] at ha; cases ha
  · exact unique_step (sound_of_reach h₀ run) hu next

theorem order_of_reach {w₀ : World} (h₀ : w₀.Initial) (run : Reach (step settings) Free w₀ w)
    (later : Reach (step settings) Free w w') (ho : w.db.operations.lookup i = some o) :
    ∃ o', w'.db.operations.lookup i = some o' ∧ o'.order = o.order := by
  refine later.invariant (fun v => ∃ o', v.db.operations.lookup i = some o' ∧ o'.order = o.order)
    ⟨o, ho, rfl⟩ ?_
  rintro a l b hrun ⟨o', ho', horder⟩ - next
  obtain ⟨o'', ho'', horder'⟩ := order_step (sound_of_reach h₀ (run.trans hrun)).owned next ho'
  exact ⟨o'', ho'', horder'.trans horder⟩

/-! ### The key is taken -/

/-- The operation that carries the key of a request. -/
structure Database.Holds (db : Database) (req : Request) (i : Uuid) (o : RuntimeOperation) :
    Prop where
  found : db.operations.lookup i = some o
  key : req.key = some o.idempotencyKey

/-- A request whose key is taken is answered: with the operation, or with an error; another request
hash is an error. -/
theorem replay_of_held (hu : db.Unique) (hh : db.Holds req i o) (hash : String) (log : Bool) :
    ∃ response, replay db req hash log = some response ∧
      (response.status = 200 ∨ response.Refuses) ∧ (o.requestHash ≠ hash → response.Refuses) := by
  unfold replay
  cases hreplay : idempotencyReplay db req hash with
  | error response =>
    have hrefuses := raises_idempotencyReplay response hreplay
    exact ⟨response, rfl, .inr hrefuses, fun _ => hrefuses⟩
  | ok found =>
    -- the operation that is found is the one that holds the key, with the same hash
    have hfound : found = some (i, o) ∧ o.requestHash = hash := by
      simp only [idempotencyReplay, hh.key] at hreplay
      obtain ⟨_, -, hreplay⟩ := bind_eq_ok.1 hreplay
      split at hreplay
      · rename_i hnone
        have := Table.find_eq_none.1 hnone i o hh.found
        simp at this
      · rename_i j p hsome
        obtain ⟨_, hhash, hreplay⟩ := bind_eq_ok.1 hreplay
        obtain ⟨hp, hkey⟩ := Table.lookup_of_find hsome
        have hij := hu j i p o hp hh.found (beq_iff_eq.1 hkey)
        subst hij
        cases hp.symm.trans hh.found
        exact ⟨(pure_eq_ok.1 hreplay).symm, beq_iff_eq.1 (ensure_eq_ok.1 hhash)⟩
    obtain ⟨rfl, hhash⟩ := hfound
    simp only
    split
    · exact ⟨_, rfl, .inl rfl, fun h => absurd hhash h⟩
    · split
      · exact ⟨_, rfl, .inl rfl, fun h => absurd hhash h⟩
      · rename_i response hfresh
        have hrefuses := raises_fresh req.query response hfresh
        exact ⟨response, rfl, .inr hrefuses, fun _ => hrefuses⟩

/-- Before its transaction, a request whose key is taken is answered. -/
theorem prepare_of_held (settings : Settings) (hu : db.Unique) (hh : db.Holds req i o) :
    ∃ response, prepare settings db req = .error response ∧
      (response.status = 200 ∨ response.Refuses) ∧
      ∀ job hash revision, draft db req = .ok (job, hash, revision) → o.requestHash ≠ hash →
        response.Refuses := by
  unfold prepare
  cases hdraft : draft db req with
  | error response =>
    exact ⟨response, rfl, .inr (raises_draft response hdraft), nofun⟩
  | ok d =>
    obtain ⟨job, hash, revision⟩ := d
    obtain ⟨response, hreplay, hstatus, hhash⟩ := replay_of_held hu hh hash job.isLogs
    refine ⟨response, ?_, hstatus, ?_⟩
    · simp only [ok_bind, admission, answerReplay, hreplay, error_bind]
    · rintro _ _ _ ⟨⟩
      exact hhash

theorem not_accepted_of_held {k id : Uuid} {now : Time} {job : Job} {db' : Database}
    (hh : db.Holds req i o) : transact settings db req hash k id now job ≠ .accepted db' := by
  intro h
  obtain ⟨p, d, db₁, asked, free, -⟩ := asked_of_transact h
  refine Database.ne_of_operationConflict free hh.found ?_
  rw [asked.idempotencyKey, hh.key, Option.getD_some]

/-! ### Answered requests -/

/-- The request `r` has been answered with `response`, and takes no step from here on. -/
structure Settled (settings : Settings) (w : World) (r : ℕ) (response : Response) : Prop where
  answered : ∃ req, w.flights.lookup r = some ⟨req, .answered response⟩
  last : ∀ w' l, Reach (step settings) Free w w' → l.flight = some r → step settings w' l = none

theorem Moved.flights {token : Uuid} {phase : Phase} (h : Moved w token i l phase w') :
    w'.flights = w.flights := by
  cases h <;> rfl

theorem lookup_setStage {r' : ℕ} {stage : Stage} : (w.setStage r' req stage).flights.lookup r =
    if r = r' then some ⟨req, stage⟩ else w.flights.lookup r :=
  Table.lookup_insert_eq r' r _

theorem answered_step (hs : Sound w) (h : step settings w l = some w')
    (ha : w.flights.lookup r = some ⟨req, .answered response⟩) :
    w'.flights.lookup r = some ⟨req, .answered response⟩ := by
  -- a request that takes a step is at another stage
  have hne : ∀ {r' flight}, w.flights.lookup r' = some flight → flight.stage.isAnswered = false →
      r ≠ r' := by
    rintro r' flight hf hstage rfl
    cases hf.symm.trans ha
    cases hstage
  cases step_change hs.owned h with
  | tick => exact ha
  | edit => exact ha
  | claim => exact ha
  | session _ _ moved => rw [moved.flights, ha]
  | begin fresh =>
    rw [lookup_setStage, if_neg, ha]
    rintro rfl
    cases fresh.symm.trans ha
  | enter found => rw [lookup_setStage, if_neg (hne found rfl), ha]
  | answer found _ waiting => rw [lookup_setStage, if_neg (hne found waiting), ha]
  | refuse found =>
    rw [lookup_setStage, if_neg (hne found rfl)]
    exact ha
  | accept found =>
    rw [lookup_setStage, if_neg (hne found rfl)]
    exact ha

theorem step_of_answered (ha : w.flights.lookup r = some ⟨req, .answered response⟩)
    (hl : l.flight = some r) : step settings w l = none := by
  cases l <;> simp only [Label.flight, reduceCtorEq, Option.some.injEq] at hl
  all_goals subst hl; simp [step, flightStep, ha]

theorem settled_of_answered {w₀ : World} (h₀ : w₀.Initial) (run : Reach (step settings) Free w₀ w)
    (ha : w.flights.lookup r = some ⟨req, .answered response⟩) :
    Settled settings w r response := by
  refine ⟨⟨req, ha⟩, fun w' l later hl => ?_⟩
  have ha' : w'.flights.lookup r = some ⟨req, .answered response⟩ :=
    later.invariant (fun v => v.flights.lookup r = some ⟨req, .answered response⟩) ha
      fun hrun ha _ next => answered_step (sound_of_reach h₀ (run.trans hrun)) next ha
  exact step_of_answered ha' hl

/-! ### The steps of a request whose key is taken -/

theorem begin_of_held (hu : w.db.Unique) (hh : w.db.Holds req i o)
    (h : step settings w (.begin r req) = some w') :
    w'.db = w.db ∧ ∃ response, w'.flights.lookup r = some ⟨req, .answered response⟩ ∧
      (response.status = 200 ∨ response.Refuses) ∧
      ∀ job hash revision, draft w.db req = .ok (job, hash, revision) → o.requestHash ≠ hash →
        response.Refuses := by
  obtain ⟨response, hprepare, hstatus, hhash⟩ := prepare_of_held settings hu hh
  simp only [step, hprepare] at h
  split_ifs at h
  cases h
  exact ⟨rfl, response, by rw [lookup_setStage, if_pos rfl], hstatus, hhash⟩

theorem enter_of_held {job : Job} (hu : w.db.Unique) (hh : w.db.Holds req i o)
    (found : w.flights.lookup r = some ⟨req, .prepared job hash⟩)
    (h : step settings w (.enter r) = some w') :
    w'.db = w.db ∧ ∃ response, w'.flights.lookup r = some ⟨req, .answered response⟩ ∧
      (response.status = 200 ∨ response.Refuses) ∧ (o.requestHash ≠ hash → response.Refuses) := by
  obtain ⟨response, hreplay, hstatus, hhash⟩ := replay_of_held hu hh hash job.isLogs
  simp only [step, found, Option.bind_some, flightStep, lockedReplay, hreplay] at h
  cases h
  exact ⟨rfl, response, by rw [lookup_setStage, if_pos rfl], hstatus, hhash⟩

theorem transact_of_held {job : Job} {k id : Uuid} (hh : w.db.Holds req i o)
    (found : w.flights.lookup r = some ⟨req, .entered job hash⟩)
    (h : step settings w (.transact r k id) = some w') :
    w'.db.operations = w.db.operations ∧ w'.db.deployments = w.db.deployments ∧
      ∃ response, w'.flights.lookup r = some ⟨req, .answered response⟩ ∧ response.Refuses := by
  simp only [step, found, Option.bind_some, flightStep, transactStep] at h
  split_ifs at h
  split at h
  · rename_i response houtcome
    cases h
    exact ⟨rfl, rfl, response, by rw [lookup_setStage, if_pos rfl],
      refuses_of_transact (.inl houtcome)⟩
  · rename_i db response houtcome
    cases h
    have hreleased := (called_of_returned houtcome).released
    exact ⟨hreleased.operations, hreleased.deployments, response,
      by rw [lookup_setStage, if_pos rfl], refuses_of_transact (.inr ⟨db, houtcome⟩)⟩
  · rename_i houtcome
    exact absurd houtcome (not_accepted_of_held hh)

/-- **Idempotency keys are exactly-once.** No key is ever carried by two operations. A request whose
key is taken when it arrives, or when it takes its lock, is settled without any change, and with an
error if the request hash is another one. A request that loses the key to another one during its
transaction is settled with an error, and neither deployments nor operations change. -/
theorem idempotency_exactly_once {settings : Settings} {w₀ w : World} (h₀ : w₀.Initial)
    (run : Reach (step settings) Free w₀ w) :
    (∀ w' i j a b, Reach (step settings) Free w w' → w.db.operations.lookup i = some a →
      w'.db.operations.lookup j = some b → b.idempotencyKey = a.idempotencyKey → j = i) ∧
    (∀ r req i o w', w.db.Holds req i o → step settings w (.begin r req) = some w' →
      w'.db = w.db ∧ ∃ response, Settled settings w' r response ∧
        (response.status = 200 ∨ response.Refuses) ∧
        ∀ job hash revision, draft w.db req = .ok (job, hash, revision) → o.requestHash ≠ hash →
          response.Refuses) ∧
    (∀ r req job hash i o w', w.db.Holds req i o →
      w.flights.lookup r = some ⟨req, .prepared job hash⟩ →
      step settings w (.enter r) = some w' →
      w'.db = w.db ∧ ∃ response, Settled settings w' r response ∧
        (response.status = 200 ∨ response.Refuses) ∧ (o.requestHash ≠ hash → response.Refuses)) ∧
    (∀ r req job hash i o k id w', w.db.Holds req i o →
      w.flights.lookup r = some ⟨req, .entered job hash⟩ →
      step settings w (.transact r k id) = some w' →
      w'.db.operations = w.db.operations ∧ w'.db.deployments = w.db.deployments ∧
        ∃ response, Settled settings w' r response ∧ response.Refuses) := by
  have hu := unique_of_reach h₀ run
  have hsettled : ∀ {w' l r req response}, step settings w l = some w' →
      w'.flights.lookup r = some ⟨req, .answered response⟩ → Settled settings w' r response :=
    fun h ha => settled_of_answered h₀ (run.tail trivial h) ha
  refine ⟨fun w' i j a b later ha hb hkey => ?_, fun r req i o w' hh h => ?_,
    fun r req job hash i o w' hh found h => ?_, fun r req job hash i o k id w' hh found h => ?_⟩
  · obtain ⟨a', ha', horder⟩ := order_of_reach h₀ run later ha
    have hkey' : a'.idempotencyKey = a.idempotencyKey := congrArg Order.idempotencyKey horder
    exact unique_of_reach h₀ (run.trans later) j i b a' hb ha' (hkey.trans hkey'.symm)
  · -- the key is taken before the request, before its lock, or before its insert
    obtain ⟨hdb, response, ha, hstatus, hhash⟩ := begin_of_held hu hh h
    exact ⟨hdb, response, hsettled h ha, hstatus, hhash⟩
  · obtain ⟨hdb, response, ha, hstatus, hhash⟩ := enter_of_held hu hh found h
    exact ⟨hdb, response, hsettled h ha, hstatus, hhash⟩
  · obtain ⟨hops, hdeps, response, ha, hrefuses⟩ := transact_of_held hh found h
    exact ⟨hops, hdeps, response, hsettled h ha, hrefuses⟩

/-- The sample request is sent twice. -/
theorem idempotency_exactly_once_sample :
    ∃ w' response, step sampleSettings deployedWorld (.begin 1 sampleCreate) = some w' ∧
      deployedWorld.db.Holds sampleCreate 2 sampleOperation ∧ w'.db = deployedWorld.db ∧
      Settled sampleSettings w' 1 response := by
  have hfresh : (deployedWorld.flights.lookup 1).isNone := by decide
  obtain ⟨w', hstep⟩ :
      ∃ w', step sampleSettings deployedWorld (.begin 1 sampleCreate) = some w' := by
    simp only [step, if_pos hfresh]
    exact ⟨_, rfl⟩
  have holds : deployedWorld.db.Holds sampleCreate 2 sampleOperation :=
    ⟨by decide, by decide +kernel⟩
  obtain ⟨hdb, response, hsettled, -⟩ := (idempotency_exactly_once initial_sampleWorld
    (reach_deployedWorld trivial trivial trivial)).2.1 1 sampleCreate 2 sampleOperation
      w' holds hstep
  exact ⟨w', response, hstep, holds, hdb, hsettled⟩

end ArchiDeal.Hosting
