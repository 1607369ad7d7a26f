import ArchiDeal.Hosting.Fencing

/-!
# Captured logs

`_complete_logs` writes the snapshot into the cache before it compares the lease token, and deletes
the entry when the comparison fails; all workers of an operation share one cache key. A worker that
has lost its lease can therefore remove or replace the log of the worker that completed the
operation. As long as no such worker accesses the cache entry that the holder of the lease has
written, the log is kept.

* `orderly`: the condition;
* `log_step`, `cache_step`, `succeeded_step`: what a step does to the snapshots of the workers, to
  the cache, and to the log operations that have succeeded;
* `Logged`, `logged_step`: the invariant.
-/

namespace ArchiDeal.Hosting

open Transition

variable {settings : Settings} {w w' : World} {l : Label} {i j token : Uuid} {phase : Phase}
  {o : RuntimeOperation} {entry : LogEntry}

/-! ### The condition on the steps -/

/-- The snapshot that a worker has in memory. -/
def Phase.captured : Phase → Option LogEntry
  | .caching entry | .completing entry => some entry
  | _ => none

/-- The snapshot that a worker has written into the cache. -/
def Phase.cached : Phase → Option LogEntry
  | .completing entry => some entry
  | _ => none

theorem Phase.cached_eq_some : phase.cached = some entry ↔ phase = .completing entry := by
  cases phase <;> simp [Phase.cached]

/-- The operation has succeeded, or the holder of its lease has written the cache. -/
def World.guarded (w : World) (i : Uuid) : Bool :=
  (w.db.operations.lookup i).any fun o => o.status == .succeeded || o.leaseToken.any fun token =>
    (w.sessions.lookup token).any fun s => s.phase.cached.isSome

/-- No worker without the lease accesses a cache entry that is guarded. -/
def orderly (w : World) : Label → Bool
  | .cacheSet token | .complete token => (w.sessions.lookup token).all fun s =>
    !w.guarded s.operation || w.storedToken s.operation == some token
  | _ => true

/-- The runs of orderly steps. -/
abbrev Orderly (w : World) (l : Label) : Prop := orderly w l = true

theorem World.guarded_eq_true : w.guarded i = true ↔ ∃ o, w.db.operations.lookup i = some o ∧
    (o.status = .succeeded ∨ ∃ token s, o.leaseToken = some token ∧
      w.sessions.lookup token = some s ∧ s.phase.cached.isSome) := by
  simp [World.guarded, Option.any_eq_true]

theorem storedToken_of_orderly (hl : l = .cacheSet token ∨ l = .complete token) (h : Orderly w l)
    (hp : w.sessions.lookup token = some ⟨i, phase⟩) (hg : w.guarded i = true) :
    w.storedToken i = some token := by
  rcases hl with rfl | rfl <;> simpa [Orderly, orderly, hp, hg] using h

/-- In this step the holder of the lease of operation `i` completes it with `entry`. -/
structure Completes (settings : Settings) (w : World) (i token : Uuid) (entry : LogEntry)
    (w' : World) : Prop where
  session : w.sessions.lookup token = some ⟨i, .completing entry⟩
  holder : w.storedToken i = some token
  next : step settings w (.complete token) = some w'

/-! ### What a step does -/

theorem captured_executing {loaded : Loaded} : (executing loaded).captured = none := by
  unfold executing
  repeat' split
  all_goals rfl

theorem cached_executing {loaded : Loaded} : (executing loaded).cached = none := by
  unfold executing
  repeat' split
  all_goals rfl

theorem captured_received {now : Time} {answer : Except ControllerException Json}
    (h : (received now answer phase).captured = some entry) :
    phase.captured = some entry ∨ entry.expiresAt = now + logTtl := by
  cases phase with
  | calling =>
    simp only [received] at h
    repeat' split at h
    all_goals cases h
  | capturing =>
    simp only [received] at h
    split at h <;> cases h
    exact .inr rfl
  | _ => exact .inl h

theorem cached_received {now : Time} {answer : Except ControllerException Json} :
    (received now answer phase).cached = phase.cached := by
  cases phase with
  | calling =>
    simp only [received]
    repeat' split
    all_goals rfl
  | capturing =>
    simp only [received]
    split <;> rfl
  | _ => rfl

/-- What a step of a session does to its snapshot: it is captured at the clock, and it gets into the
cache by being written there. -/
theorem Moved.log (h : Moved w token i l phase w') :
    ∃ phase', w'.sessions = w.sessions.insert token ⟨i, phase'⟩ ∧
      (∀ entry, phase'.captured = some entry →
        phase.captured = some entry ∨ entry.expiresAt = w.clock + logTtl) ∧
      ∀ entry, phase'.cached = some entry → phase.cached = some entry ∨
        phase = .caching entry ∧ w'.cache = w.cache.insert i (entry, w.clock + logTtl) := by
  cases h with
  | load =>
    refine ⟨_, rfl, fun entry h => ?_, fun entry h => ?_⟩
    all_goals cases hl : w.db.load i with
      | none => rw [hl] at h; cases h
      | some loaded =>
        rw [hl, Option.elim_some] at h
        simp only [captured_executing, cached_executing, reduceCtorEq] at h
  | reply =>
    exact ⟨_, rfl, fun entry h => captured_received h, fun entry h => .inl (cached_received ▸ h)⟩
  | leave h =>
    refine ⟨_, rfl, fun entry he => ?_, fun entry he => ?_⟩
    all_goals rcases h with rfl | ⟨e, rfl⟩ <;> cases he
  | cacheSet =>
    refine ⟨_, rfl, fun entry h => .inl h, fun entry h => .inr ?_⟩
    cases h
    exact ⟨rfl, rfl⟩
  | discard => exact ⟨_, rfl, nofun, nofun⟩
  | write => exact ⟨_, rfl, nofun, nofun⟩

theorem log_step (hs : Sound w) (h : step settings w l = some w')
    (hp : w'.sessions.lookup token = some ⟨i, phase⟩) :
    (∀ entry, phase.captured = some entry → entry.expiresAt = w.clock + logTtl ∨
      ∃ phase', w.sessions.lookup token = some ⟨i, phase'⟩ ∧ phase'.captured = some entry) ∧
    ∀ entry, phase = .completing entry → w.sessions.lookup token = some ⟨i, .completing entry⟩ ∨
      w.sessions.lookup token = some ⟨i, .caching entry⟩ ∧
        w'.cache = w.cache.insert i (entry, w.clock + logTtl) := by
  by_cases hold : w.sessions.lookup token = some ⟨i, phase⟩
  · exact ⟨fun entry he => .inr ⟨phase, hold, he⟩, fun entry he => .inl (he ▸ hold)⟩
  cases step_change hs.owned h with
  | claim =>
    rw [World.setPhase, Table.lookup_insert_eq] at hp
    split_ifs at hp
    · cases hp
      constructor <;> rintro _ ⟨⟩
    · exact absurd hp hold
  | @session _ t s _ found _ moved =>
    obtain ⟨j, phase₀⟩ := s
    obtain ⟨phase', hw, hcaptured, hcached⟩ := moved.log
    rw [hw, Table.lookup_insert_eq] at hp
    split_ifs at hp with ht
    · subst ht
      cases hp
      refine ⟨fun entry he => ?_, fun entry he => ?_⟩
      · rcases hcaptured entry he with he | he
        · exact .inr ⟨phase₀, found, he⟩
        · exact .inl he
      · rcases hcached entry (Phase.cached_eq_some.2 he) with he | ⟨rfl, hc⟩
        · exact .inl (Phase.cached_eq_some.1 he ▸ found)
        · exact .inr ⟨found, hc⟩
    · exact absurd hp hold
  | _ => exact absurd hp hold

/-- **The cache.** A step keeps the cache, or a worker writes its own snapshot, or a worker without
the lease deletes the entry of its operation. -/
theorem cache_step (hs : Sound w) (h : step settings w l = some w') :
    w'.cache = w.cache ∨
      (w'.db = w.db ∧ ∃ token i, (∀ j, j ≠ i → w'.cache.lookup j = w.cache.lookup j) ∧
        ((l = .cacheSet token ∧ ∃ entry, w.sessions.lookup token = some ⟨i, .caching entry⟩) ∨
          (l = .complete token ∧ w.storedToken i ≠ some token ∧
            ∃ entry, w.sessions.lookup token = some ⟨i, .completing entry⟩))) := by
  cases step_change hs.owned h with
  | @session _ token s _ found _ moved =>
    obtain ⟨i, phase⟩ := s
    cases moved with
    | cacheSet =>
      refine .inr ⟨rfl, token, i, fun j hj => ?_, .inl ⟨rfl, _, found⟩⟩
      exact (Table.lookup_insert_eq i j _).trans (if_neg hj)
    | discard row stale =>
      refine .inr ⟨rfl, token, i, fun j hj => AList.lookup_erase_ne hj, .inr ⟨rfl, ?_, _, found⟩⟩
      rw [World.storedToken, row]
      exact stale
    | _ => exact .inl rfl
  | _ => exact .inl rfl

/-- **Completion.** A log operation that has succeeded after a step had succeeded before it, or is
completed by this step. -/
theorem succeeded_step (hs : Sound w) (h : step settings w l = some w')
    (ho : w'.db.operations.lookup i = some o) (hlog : o.isLog = true)
    (hdone : o.status = .succeeded) :
    w.db.operations.lookup i = some o ∨ ∃ token entry, Completes settings w i token entry w' ∧
      w'.cache = w.cache ∧ o.result = some (.ephemeral entry.expiresAt) := by
  cases step_tx hs.owned h with
  | quiet operations => exact .inl (operations ▸ ho)
  | @work _ k p p' _ _ _ found _ did saves =>
    rw [saves.operations] at ho
    split_ifs at ho with hi
    · subst hi
      cases ho
      cases did with
      | claim => cases hdone
      | worked session held work =>
        obtain ⟨_, ha, hf⟩ := hs.attached _ _ _ session
        cases ha.symm.trans found
        cases work with
        | record _ recorded =>
          -- a recorded snapshot belongs to an operation that is not a log
          rw [isLog_of_order (recorded_of_recordSnapshot recorded).2.2.2.order, hf.2] at hlog
          cases hlog
        | @complete entry =>
          have holder : w.storedToken i = some _ := World.storedToken_eq_some.2 ⟨_, found, held⟩
          refine .inr ⟨_, entry, ⟨session, holder, h⟩, ?_, rfl⟩
          rcases cache_step hs h with hc | ⟨-, t, k, -, ⟨hl, -⟩ | ⟨hl, hstale, e, hsession⟩⟩
          · exact hc
          · cases hl
          · cases hl
            cases session.symm.trans hsession
            exact absurd holder hstale
        | controller failed =>
          unfold controllerFailure at failed
          split_ifs at failed <;> cases failed <;> cases hdone
        | unexpected failed => cases failed; cases hdone
    · exact .inl ho
  | ask _ _ _ asked _ saves =>
    rw [saves.operations] at ho
    split_ifs at ho
    · cases ho
      cases asked <;> cases hdone
    · exact .inl ho

theorem clock_step (hs : Sound w) (h : step settings w l = some w') : w.clock ≤ w'.clock := by
  cases step_change hs.owned h with
  | tick later => exact later
  | @session _ _ s _ _ _ moved =>
    obtain ⟨i, phase⟩ := s
    cases moved <;> exact le_rfl
  | _ => exact le_rfl

theorem cache_kept (hs : Sound w) (hok : Orderly w l) (h : step settings w l = some w')
    (hg : w.guarded i = true) : w'.cache.lookup i = w.cache.lookup i := by
  rcases cache_step hs h with hc | ⟨-, token, j, hother, hown⟩
  · rw [hc]
  by_cases hij : i = j
  · subst hij
    exfalso
    rcases hown with ⟨hl, entry, hsession⟩ | ⟨hl, hstale, entry, hsession⟩
    · -- the holder of the lease has not written the cache yet, so that nothing guards the entry
      have holder := storedToken_of_orderly (.inl hl) hok hsession hg
      obtain ⟨o, ho, htoken⟩ := World.storedToken_eq_some.1 holder
      obtain ⟨o', ho', hdone | ⟨t, s, ht, hsession', hcached⟩⟩ := World.guarded_eq_true.1 hg
      · cases ho.symm.trans ho'
        rw [(hs.leased i o token ho htoken).1] at hdone
        cases hdone
      · cases ho.symm.trans ho'
        cases htoken.symm.trans ht
        cases hsession.symm.trans hsession'
        cases hcached
    · exact hstale (storedToken_of_orderly (.inr hl) hok hsession hg)
  · exact hother i hij

/-! ### The invariant -/

/-- The cache holds the snapshot, at least until it expires. -/
def World.Caches (w : World) (i : Uuid) (entry : LogEntry) : Prop :=
  ∃ timeout, w.cache.lookup i = some (entry, timeout) ∧ entry.expiresAt ≤ timeout

/-- A run from `w₀` to `w` completes the operation `i` with `entry`. -/
def Completed (settings : Settings) (w₀ : World) (i : Uuid) (entry : LogEntry) (w : World) : Prop :=
  ∃ a token b, Reach (step settings) Orderly w₀ a ∧ Completes settings a i token entry b ∧
    Reach (step settings) Orderly b w

/-- The invariant: no snapshot expires later than it would if it were cached now; what the holder of
a lease has written is in the cache; and so is the snapshot of an operation that has succeeded. -/
structure Logged (settings : Settings) (w₀ w : World) : Prop where
  dated : ∀ token i phase entry, w.sessions.lookup token = some ⟨i, phase⟩ →
    phase.captured = some entry → entry.expiresAt ≤ w.clock + logTtl
  written : ∀ token i entry, w.storedToken i = some token →
    w.sessions.lookup token = some ⟨i, .completing entry⟩ → w.Caches i entry
  kept : ∀ i o, w.db.operations.lookup i = some o → o.isLog = true → o.status = .succeeded →
    ∃ entry, o.result = some (.ephemeral entry.expiresAt) ∧ w.Caches i entry ∧
      Completed settings w₀ i entry w

theorem logged_step {w₀ : World} (run : Reach (step settings) Orderly w₀ w) (hs : Sound w)
    (hlog : Logged settings w₀ w) (hok : Orderly w l) (h : step settings w l = some w') :
    Logged settings w₀ w' where
  dated := by
    intro token i phase entry hp he
    have hclock := clock_step hs h
    rcases (log_step hs h hp).1 entry he with heq | ⟨phase', hp', he'⟩
    · exact heq ▸ Nat.add_le_add_right hclock logTtl
    · exact (hlog.dated token i phase' entry hp' he').trans (Nat.add_le_add_right hclock logTtl)
  written := by
    intro token i entry ht hp
    rcases (log_step hs h hp).2 entry rfl with hold | ⟨hold, hc⟩
    · have ht' := (storedToken_step hs h ht).resolve_right (not_not.2 ⟨_, hold⟩)
      obtain ⟨timeout, hcache, hle⟩ := hlog.written token i entry ht' hold
      obtain ⟨o, ho, htoken⟩ := World.storedToken_eq_some.1 ht'
      have hg := World.guarded_eq_true.2 ⟨o, ho, .inr ⟨token, _, htoken, hold, rfl⟩⟩
      exact ⟨timeout, (cache_kept hs hok h hg).trans hcache, hle⟩
    · refine ⟨w.clock + logTtl, ?_, hlog.dated token i _ entry hold rfl⟩
      rw [hc, Table.lookup_insert_eq, if_pos rfl]
  kept := by
    intro i o ho hl hdone
    rcases succeeded_step hs h ho hl hdone with hold | ⟨token, entry, completes, hc, hresult⟩
    · obtain ⟨entry, hresult, ⟨timeout, hcache, hle⟩, a, token, b, hrun, hab, hlater⟩ :=
        hlog.kept i o hold hl hdone
      refine ⟨entry, hresult, ⟨timeout, ?_, hle⟩, a, token, b, hrun, hab, hlater.tail hok h⟩
      exact (cache_kept hs hok h (World.guarded_eq_true.2 ⟨o, hold, .inl hdone⟩)).trans hcache
    · obtain ⟨timeout, hcache, hle⟩ := hlog.written token i entry completes.holder completes.session
      exact ⟨entry, hresult, ⟨timeout, hc ▸ hcache, hle⟩, w, token, w', run, completes, .refl⟩

theorem World.Initial.logged (h : w.Initial) : Logged settings w w := by
  refine ⟨fun t i phase e hp => ?_, fun t i e _ hp => ?_, fun i o ho => ?_⟩
  · rw [h.sessions] at hp; cases hp
  · rw [h.sessions] at hp; cases hp
  · rw [h.operations] at ho; cases ho

/-- **Captured logs are kept.** In every run in which no worker without the lease accesses a cache
entry that is guarded, a log operation that has succeeded stores when its snapshot expires, and
until then the cache holds the snapshot of the worker that completed the operation, and the API
answers with it. -/
theorem captured_log_kept {settings : Settings} {w₀ w : World} (h₀ : w₀.Initial)
    (run : Reach (step settings) Orderly w₀ w) (i : Uuid) (o : RuntimeOperation)
    (ho : w.db.operations.lookup i = some o) (hlog : o.isLog = true)
    (hdone : o.status = .succeeded) :
    ∃ entry, o.result = some (.ephemeral entry.expiresAt) ∧ Completed settings w₀ i entry w ∧
      (w.clock < entry.expiresAt → w.cache.get? w.clock i = some entry ∧
        getResult w.cache w.clock i o = some (.inl entry)) := by
  have hlogged : Logged settings w₀ w := by
    refine run.invariant (Logged settings w₀) h₀.logged fun hrun hl hok next => ?_
    exact logged_step hrun (sound_of_reach h₀ hrun.free) hl hok next
  obtain ⟨entry, hresult, ⟨timeout, hcache, hle⟩, hcompleted⟩ := hlogged.kept i o ho hlog hdone
  refine ⟨entry, hresult, hcompleted, fun hclock => ?_⟩
  have hget : w.cache.get? w.clock i = some entry := by
    rw [Cache.get?, hcache, Option.bind_some, if_pos (lt_of_lt_of_le hclock hle)]
  exact ⟨hget, by rw [getResult, if_pos hlog, hget, Option.map_some]⟩

def sampleLogRequest : Request :=
  { endpoint := .logRequests (some 1) (.ok ⟨"api", 10, 60⟩)
    idempotencyKey := some "logs-001"
    ifMatch := some "\"2\"" }

/-- The answer of the controller. -/
def sampleLines : Json := .obj [("lines", .arr [.str "ready"])]

/-- The log is requested, and a worker captures it. -/
def sampleCapture : List Label :=
  [.begin 1 sampleLogRequest, .enter 1, .transact 1 4 3, .claim "a" 3 20 0, .load 20,
    .reply 20 (.ok sampleLines), .cacheSet 20]

/-- The worker that captured the log completes the operation. -/
theorem captured_log_kept_sample :
    ∃ w o entry, runLabels (step sampleSettings) Orderly deployedWorld
        (sampleDeploy ++ sampleCapture ++ [.complete 20]) = some w ∧
      w.db.operations.lookup 3 = some o ∧ o.result = some (.ephemeral entry.expiresAt) ∧
      Completed sampleSettings sampleWorld 3 entry w ∧
      (w.clock < entry.expiresAt → w.cache.get? w.clock 3 = some entry ∧
        getResult w.cache w.clock 3 o = some (.inl entry)) := by
  have hrun : (runLabels (step sampleSettings) Orderly deployedWorld
      (sampleDeploy ++ sampleCapture ++ [.complete 20])).any (fun w =>
        (w.db.operations.lookup 3).any fun o => o.isLog ∧ o.status = .succeeded) = true := by
    decide +kernel
  obtain ⟨w, hw, hstate⟩ := (Option.any_eq_true _ _).1 hrun
  obtain ⟨o, ho, hstate⟩ := (Option.any_eq_true _ _).1 hstate
  obtain ⟨hlog, hdone⟩ := of_decide_eq_true hstate
  obtain ⟨entry, h⟩ := captured_log_kept initial_sampleWorld
    ((reach_deployedWorld rfl rfl rfl).trans (reach_of_runLabels hw)) 3 o ho hlog hdone
  exact ⟨w, o, entry, hw, ho, h⟩

/-- **A captured log can be lost.** The lease of a worker that has written the cache expires;
another worker reclaims the operation and completes it; the first one resumes, finds another token
and deletes the entry. -/
theorem captured_log_lost :
    ∃ w o expiresAt, Reach (step sampleSettings) Free sampleWorld w ∧
      w.db.operations.lookup 3 = some o ∧ o.isLog = true ∧ o.status = .succeeded ∧
      o.result = some (.ephemeral expiresAt) ∧ w.clock < expiresAt ∧
      w.cache.get? w.clock 3 = none := by
  have hrun : (runLabels (step sampleSettings) Free deployedWorld
      (sampleDeploy ++ sampleCapture ++ [.tick (seconds 90), .claim "b" 3 21 (seconds 90), .load 21,
        .reply 21 (.ok sampleLines), .cacheSet 21, .complete 21, .complete 20])).any (fun w =>
          (w.db.operations.lookup 3).any fun o => o.isLog ∧ o.status = .succeeded ∧
            o.result = some (.ephemeral (seconds 390)) ∧ w.clock < seconds 390 ∧
            w.cache.get? w.clock 3 = none) = true := by
    decide +kernel
  obtain ⟨w, hw, hstate⟩ := (Option.any_eq_true _ _).1 hrun
  obtain ⟨o, ho, hstate⟩ := (Option.any_eq_true _ _).1 hstate
  have run := (reach_deployedWorld trivial trivial trivial).trans (reach_of_runLabels hw)
  exact ⟨w, o, seconds 390, run, ho, of_decide_eq_true hstate⟩

end ArchiDeal.Hosting
