import ArchiDeal.Hosting.Queue

/-!
# Lease tokens

The controller is called outside any transaction, so that a worker may come back to an operation
that another worker has reclaimed. Every transaction compares the lease token under the row lock,
and tokens are never repeated: a worker that has lost its lease changes no row, and an operation
that has ended is never touched again.
-/

namespace ArchiDeal.Hosting

open Transition

variable {settings : Settings} {w w' : World} {l : Label} {i token : Uuid} {phase : Phase}
  {o : RuntimeOperation}

/-! ### Stale workers -/

/-- The lease token that is stored for operation `i`. -/
def World.storedToken (w : World) (i : Uuid) : Option Uuid :=
  (w.db.operations.lookup i).bind RuntimeOperation.leaseToken

/-- A worker works, or has worked, on operation `i` with this token. -/
def World.Issued (w : World) (i token : Uuid) : Prop :=
  ∃ phase, w.sessions.lookup token = some ⟨i, phase⟩

theorem World.storedToken_eq_some : w.storedToken i = some token ↔
    ∃ o, w.db.operations.lookup i = some o ∧ o.leaseToken = some token :=
  Option.bind_eq_some_iff

theorem storedToken_step (hs : Sound w) (h : step settings w l = some w')
    (ht : w'.storedToken i = some token) : w.storedToken i = some token ∨ ¬ w.Issued i token := by
  obtain ⟨o, ho, ht⟩ := World.storedToken_eq_some.1 ht
  cases step_tx hs.owned h with
  | quiet operations => exact .inl (World.storedToken_eq_some.2 ⟨o, operations ▸ ho, ht⟩)
  | work found owner did saves =>
    rw [saves.operations] at ho
    split_ifs at ho with hi
    · cases ho
      cases did with
      | claim _ fresh =>
        cases ht
        refine .inr ?_
        rintro ⟨phase, hp⟩
        rw [fresh] at hp
        cases hp
      | worked _ _ work =>
        rw [work.leaseToken] at ht
        cases ht
    · exact .inl (World.storedToken_eq_some.2 ⟨o, ho, ht⟩)
  | ask _ _ _ asked _ saves =>
    rw [saves.operations] at ho
    split_ifs at ho
    · cases ho
      cases asked <;> cases ht
    · exact .inl (World.storedToken_eq_some.2 ⟨o, ho, ht⟩)

theorem stale_of_reach {w₀ : World} (h₀ : w₀.Initial) (run : Reach (step settings) Free w₀ w)
    (later : Reach (step settings) Free w w') (hi : w.Issued i token)
    (hs : w.storedToken i ≠ some token) : w'.Issued i token ∧ w'.storedToken i ≠ some token := by
  have hsound : ∀ {v}, Reach (step settings) Free w v → Sound v := fun hv =>
    sound_of_reach h₀ (run.trans hv)
  refine later.fenced (·.storedToken i) (·.Issued i) ?_ ?_ hi hs
  · rintro a l b y hv next ⟨phase, hp⟩
    exact session_kept (hsound hv) next hp
  · intro a l b y hv next hb
    exact storedToken_step (hsound hv) next hb

/-- A step of a session without the lease leaves the database alone. -/
theorem db_of_stale_step (hs : Sound w) (hl : l.token = some token)
    (hi : w.Issued i token) (hstale : w.storedToken i ≠ some token)
    (h : step settings w l = some w') : w'.db = w.db := by
  obtain ⟨phase, hp⟩ := hi
  cases step_change hs.owned h with
  | tick => cases hl
  | edit => cases hl
  | claim => cases hl
  | session found own moved =>
    cases own.symm.trans hl
    cases found.symm.trans hp
    cases moved with
    | load => rfl
    | reply => rfl
    | leave => rfl
    | cacheSet => rfl
    | discard => rfl
    | write found _ held => exact absurd (World.storedToken_eq_some.2 ⟨_, found, held⟩) hstale
  | begin => cases hl
  | enter => cases hl
  | answer => rfl
  | refuse => cases hl
  | accept => cases hl

/-! ### Ended operations -/

theorem lookup_of_ended_step (hs : Sound w) (ho : w.db.operations.lookup i = some o)
    (hend : o.isActive = false) (h : step settings w l = some w') :
    w'.db.operations.lookup i = some o := by
  cases step_tx hs.owned h with
  | quiet operations => rw [operations, ho]
  | work found _ did saves =>
    rw [saves.operations, if_neg, ho]
    rintro rfl
    cases found.symm.trans ho
    rw [did.isActive hs ho] at hend
    cases hend
  | ask _ _ newId _ _ saves =>
    rw [saves.operations, if_neg, ho]
    rintro rfl
    cases newId.symm.trans ho

theorem lookup_of_ended {w₀ : World} (h₀ : w₀.Initial) (run : Reach (step settings) Free w₀ w)
    (later : Reach (step settings) Free w w') (ho : w.db.operations.lookup i = some o)
    (hend : o.isActive = false) : w'.db.operations.lookup i = some o :=
  later.invariant (fun v => v.db.operations.lookup i = some o) ho fun hv hrow _ next =>
    lookup_of_ended_step (sound_of_reach h₀ (run.trans hv)) hrow hend next

theorem claim_of_ended {worker : String} {now : Time} (ho : w.db.operations.lookup i = some o)
    (hend : o.isActive = false) : step settings w (.claim worker i token now) = none := by
  simp only [step, claimStep, ho]
  rw [if_neg]
  rintro ⟨-, -, hfree⟩
  rw [isActive_of_claimable hfree] at hend
  cases hend

theorem isActive_eq_false (h : o.status = .succeeded ∨ o.status = .failed) : o.isActive =
    false := by
  rcases h with h | h <;> simp [RuntimeOperation.isActive, h]

/-- **Stale workers are fenced.** Once the token of a worker is not the one on its row, no step of
this worker changes the database, in this state or in any later one; and an operation that has
succeeded or failed keeps its row and cannot be claimed. -/
theorem stale_workers_fenced {settings : Settings} {w₀ w : World} (h₀ : w₀.Initial)
    (run : Reach (step settings) Free w₀ w) :
    (∀ i token phase o, w.sessions.lookup token = some ⟨i, phase⟩ →
      w.db.operations.lookup i = some o → o.leaseToken ≠ some token →
      ∀ w' l w'', Reach (step settings) Free w w' → l.token = some token →
        step settings w' l = some w'' → w''.db = w'.db) ∧
    (∀ i o, w.db.operations.lookup i = some o → o.status = .succeeded ∨ o.status = .failed →
      ∀ w', Reach (step settings) Free w w' → w'.db.operations.lookup i = some o ∧
        ∀ worker token now, step settings w' (.claim worker i token now) = none) := by
  refine ⟨fun i token phase o hp ho hne w' l w'' later hl next => ?_,
    fun i o ho hend w' later => ?_⟩
  · have hstored : w.storedToken i ≠ some token := by
      rw [World.storedToken, ho]
      exact hne
    obtain ⟨hissued, hstale⟩ := stale_of_reach h₀ run later ⟨phase, hp⟩ hstored
    exact db_of_stale_step (sound_of_reach h₀ (run.trans later)) hl hissued hstale next
  · have hrow := lookup_of_ended h₀ run later ho (isActive_eq_false hend)
    exact ⟨hrow, fun worker token now => claim_of_ended hrow (isActive_eq_false hend)⟩

/-- A lease of the sample operation expires, and another worker reclaims the operation. -/
theorem stale_workers_fenced_reclaimed :
    ∃ w, runLabels (step sampleSettings) Free deployedWorld
        [.claim "a" 2 10 0, .tick (seconds 90), .claim "b" 2 11 (seconds 90)] = some w ∧
      w.storedToken 2 = some 11 ∧
      ∀ w' l w'', Reach (step sampleSettings) Free w w' → l.token = some 10 →
        step sampleSettings w' l = some w'' → w''.db = w'.db := by
  have hrun : (runLabels (step sampleSettings) Free deployedWorld
      [.claim "a" 2 10 0, .tick (seconds 90), .claim "b" 2 11 (seconds 90)]).any (fun w =>
        w.sessions.lookup 10 = some ⟨2, .claimed⟩ ∧ w.storedToken 2 = some 11) = true := by
    decide +kernel
  obtain ⟨w, hw, hstate⟩ := (Option.any_eq_true _ _).1 hrun
  obtain ⟨hsession, hstored⟩ := of_decide_eq_true hstate
  obtain ⟨o, ho, htoken⟩ := World.storedToken_eq_some.1 hstored
  refine ⟨w, hw, hstored, ?_⟩
  exact (stale_workers_fenced initial_sampleWorld
    ((reach_deployedWorld trivial trivial trivial).trans (reach_of_runLabels hw))).1 2 10 .claimed o
      hsession ho
      (by rw [htoken]; decide)

end ArchiDeal.Hosting
