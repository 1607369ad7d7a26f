import ArchiDeal.Streams.Consume

/-!
# The normalizer loses no record

A record below the committed offset of its partition has been handled: its features record or its
dead letter is in Kafka (`Emitted`), and with state output a state record of its entity that is at
least as recent is, too (`Projected`). `Handled` only ever grows (`Extends`), so that the invariant
has to be checked only where a process moves: a process commits after it has sent everything, and
everything before the record that it works on has been handled.

The state record of the event itself need not be there, even if the event was once accepted as
latest: a process that starts after a crash may see a newer event of the entity, in another
partition, before the old one is delivered again (`accepted_event_not_projected`).
-/

namespace ArchiDeal.Streams.Consume

open Py Text Transition

variable (config : Config)

/-! ### What has to be in Kafka -/

/-- The record at a position. -/
def State.record (s : State) (pos : Position) : Option (Option (List UInt8)) :=
  (s.log pos.partition)[pos.offset]?

/-- The features record or the dead letter of a payload is durable. -/
structure Emitted (s : State) (pos : Position) (payload : List UInt8) : Prop where
  features : ∀ e, outcome config pos.partition.topic payload = .event e →
    (pos, .features e) ∈ s.durable
  dlq : ∀ error rawEvent, outcome config pos.partition.topic payload = .refused error rawEvent →
    ∃ now, (pos, .dlq (dlqEvent now pos.partition.topic error rawEvent)) ∈ s.durable

/-- A state record of the entity that is at least as recent as the event is durable. -/
def Projected (s : State) (e : NormalizedEvent) : Prop :=
  ∃ pos e', (pos, .state e') ∈ s.durable ∧ e'.entityId = e.entityId ∧
    bytes e.eventTs ≤ bytes e'.eventTs

/-- Everything that a commit of the record promises. -/
structure Settled (s : State) (pos : Position) (payload : List UInt8) (accepted : Bool) : Prop where
  emitted : Emitted config s pos payload
  projected : config.stateOutputEnabled = true → ∀ e,
    outcome config pos.partition.topic payload = .event e → Projected s e
  own : accepted = true → ∀ e, outcome config pos.partition.topic payload = .event e →
    (pos, .state e) ∈ s.durable

/-- The record exists and, unless it has no payload, a commit of it took effect. -/
def Handled (s : State) (pos : Position) : Prop :=
  ∃ record, s.record pos = some record ∧
    (record.isSome = true → ∃ accepted, (pos, accepted) ∈ s.commits)

/-! ### The invariant -/

/-- What a process awaits fits the record that it works on. -/
def Fits (s : State) (pos : Position) (payload : List UInt8) : Task → Prop
  | .sendDlq letter => ∃ now error rawEvent,
      outcome config pos.partition.topic payload = .refused error rawEvent ∧
        letter = dlqEvent now pos.partition.topic error rawEvent
  | .sendFeatures e => outcome config pos.partition.topic payload = .event e
  | .sendState e => outcome config pos.partition.topic payload = .event e ∧
      (pos, .features e) ∈ s.durable
  | .commit accepted => Settled config s pos payload accepted

structure ProcessOk (s : State) (process : Process) : Prop where
  /-- What lies before a position has been handled, up to the record in work. -/
  positions : ∀ p k, process.positions p = some k → ∀ o, s.skipped p ≤ o → o < k →
    Handled s ⟨p, o⟩ ∨ ∃ task, process.task = some (⟨p, o⟩, task)
  before : ∀ pos task, process.task = some (pos, task) → ∀ o, s.skipped pos.partition ≤ o →
    o < pos.offset → Handled s ⟨pos.partition, o⟩
  fits : ∀ pos task, process.task = some (pos, task) →
    ∃ payload, s.record pos = some (some payload) ∧ Fits config s pos payload task
  /-- A timestamp that the process remembers is in Kafka, or is being sent. -/
  latest : ∀ k ts, process.latest k = some ts →
    (∃ pos e, (pos, .state e) ∈ s.durable ∧ e.entityId = k ∧ e.eventTs = ts) ∨
      ∃ pos e, process.task = some (pos, .sendState e) ∧ e.entityId = k ∧ e.eventTs = ts

/-- What holds of every state. -/
structure Inv (s : State) : Prop where
  committed : ∀ p k, s.committed p = some k → ∀ o, s.skipped p ≤ o → o < k →
    Handled s ⟨p, o⟩
  commits : ∀ pos accepted, (pos, accepted) ∈ s.commits → ∃ payload,
    s.record pos = some (some payload) ∧ Settled config s pos payload accepted
  processes : ∀ w process, s.processes w = some process → ProcessOk config s process
  skipped : config.autoOffsetReset = .earliest → ∀ p, s.skipped p = 0

/-! ### Nothing is taken back -/

/-- The second state has everything of the first. -/
structure Extends (s s' : State) : Prop where
  record : ∀ pos r, s.record pos = some r → s'.record pos = some r
  durable : s.durable ⊆ s'.durable
  commits : s.commits ⊆ s'.commits
  skipped : ∀ p, s.skipped p ≤ s'.skipped p

section Mono

variable {config} {s s' : State} (h : Extends s s')

include h

theorem Projected.mono {e : NormalizedEvent} (hp : Projected s e) : Projected s' e := by
  obtain ⟨pos, e', hmem, hrest⟩ := hp
  exact ⟨pos, e', h.durable hmem, hrest⟩

theorem Settled.mono {pos : Position} {payload : List UInt8} {accepted : Bool}
    (hs : Settled config s pos payload accepted) : Settled config s' pos payload accepted where
  emitted :=
    { features := fun e he => h.durable (hs.emitted.features e he)
      dlq := fun error rawEvent he =>
        (hs.emitted.dlq error rawEvent he).imp fun _ hmem => h.durable hmem }
  projected := fun henabled e he => (hs.projected henabled e he).mono h
  own := fun haccepted e he => h.durable (hs.own haccepted e he)

theorem Handled.mono {pos : Position} (hh : Handled s pos) : Handled s' pos := by
  obtain ⟨record, hrecord, hcommit⟩ := hh
  exact ⟨record, h.record _ _ hrecord, fun hsome => (hcommit hsome).imp fun _ => @h.commits _⟩

theorem Fits.mono {pos : Position} {payload : List UInt8} {task : Task}
    (hf : Fits config s pos payload task) : Fits config s' pos payload task := by
  cases task with
  | sendDlq letter => exact hf
  | sendFeatures e => exact hf
  | sendState e => exact ⟨hf.1, h.durable hf.2⟩
  | commit accepted => exact Settled.mono h hf

theorem ProcessOk.mono {process : Process} (hp : ProcessOk config s process) :
    ProcessOk config s' process where
  positions := fun p k hk o ho hlt =>
    (hp.positions p k hk o ((h.skipped p).trans ho) hlt).imp_left (Handled.mono h)
  before := fun pos task htask o ho hlt =>
    (hp.before pos task htask o ((h.skipped _).trans ho) hlt).mono h
  fits := fun pos task htask =>
    (hp.fits pos task htask).imp fun _ hpayload =>
      ⟨h.record _ _ hpayload.1, hpayload.2.mono h⟩
  latest := fun k ts hts =>
    (hp.latest k ts hts).imp_left fun ⟨pos, e, hmem, hrest⟩ => ⟨pos, e, h.durable hmem, hrest⟩

/-- What the cluster has is kept, and the processes are in order. -/
theorem Inv.mono (hinv : Inv config s) (hcommitted : s'.committed = s.committed)
    (hcommits : s'.commits = s.commits)
    (hskipped : config.autoOffsetReset = .earliest → ∀ p, s'.skipped p = 0)
    (hok : ∀ w q, s'.processes w = some q → ProcessOk config s' q) : Inv config s' where
  committed := fun p k hk o ho hlt =>
    (hinv.committed p k (hcommitted ▸ hk) o ((h.skipped p).trans ho) hlt).mono h
  commits := fun pos accepted hmem =>
    (hinv.commits pos accepted (hcommits ▸ hmem)).imp fun _ hpayload =>
      ⟨h.record _ _ hpayload.1, hpayload.2.mono h⟩
  processes := hok
  skipped := hskipped

end Mono

/-! ### Calls -/

section Calls

variable {config} {s : State} {process : Process} {pos : Position} {task : Task}

theorem extends_setProcess (s : State) (w : ℕ) (process : Option Process) :
    Extends s (s.setProcess w process) :=
  ⟨fun _ _ hr => hr, List.Subset.refl _, List.Subset.refl _, fun _ => le_rfl⟩

theorem Inv.setProcess (hinv : Inv config s) (w : ℕ) (process : Option Process)
    (hok : ∀ q, process = some q → ProcessOk config s q) : Inv config (s.setProcess w process) := by
  have hext := extends_setProcess s w process
  refine hinv.mono hext rfl rfl hinv.skipped fun v q hq => ProcessOk.mono hext ?_
  by_cases hv : v = w
  · subst hv
    exact hok q (by simpa [State.setProcess] using hq)
  · exact hinv.processes v q (by simpa [State.setProcess, hv] using hq)

theorem extends_effect (s : State) (pos : Position) (task : Task) :
    Extends s (s.effect pos task) := by
  cases task <;>
    exact ⟨fun _ _ hr => hr, by simp [State.effect], by simp [State.effect], fun _ => le_rfl⟩

theorem Inv.effect (hinv : Inv config s) (hp : ProcessOk config s process)
    (htask : process.task = some (pos, task)) : Inv config (s.effect pos task) := by
  have hext := extends_effect s pos task
  have hprocesses : ∀ w q, (s.effect pos task).processes w = some q →
      ProcessOk config (s.effect pos task) q := by
    intro w q hq
    have hsame : (s.effect pos task).processes = s.processes := by cases task <;> rfl
    exact (hinv.processes w q (hsame ▸ hq)).mono hext
  have hskipped : (s.effect pos task).skipped = s.skipped := by cases task <;> rfl
  obtain ⟨payload, hrecord, hfits⟩ := hp.fits pos task htask
  refine ⟨?_, ?_, hprocesses, fun hreset p => by rw [hskipped]; exact hinv.skipped hreset p⟩
  · intro p k hk o ho hlt
    rw [hskipped] at ho
    cases task with
    | commit accepted =>
      simp only [State.effect] at hk
      by_cases hpp : p = pos.partition
      · subst hpp
        rw [Function.update_self] at hk
        cases hk
        rcases Nat.lt_or_ge o pos.offset with hlt' | hge
        · exact (hp.before pos _ htask o ho hlt').mono hext
        · -- the record of the commit
          obtain rfl : o = pos.offset := by omega
          exact ⟨some payload, hrecord, fun _ => ⟨accepted, by simp [State.effect]⟩⟩
      · rw [Function.update_of_ne hpp] at hk
        exact (hinv.committed p k hk o ho hlt).mono hext
    | sendDlq letter => exact (hinv.committed p k hk o ho hlt).mono hext
    | sendFeatures e => exact (hinv.committed p k hk o ho hlt).mono hext
    | sendState e => exact (hinv.committed p k hk o ho hlt).mono hext
  · intro q accepted hmem
    have hold : (q, accepted) ∈ s.commits → ∃ payload,
        (s.effect pos task).record q = some (some payload) ∧
          Settled config (s.effect pos task) q payload accepted := fun hmem =>
      (hinv.commits q accepted hmem).imp fun _ hpayload =>
        ⟨hext.record _ _ hpayload.1, hpayload.2.mono hext⟩
    cases task with
    | commit a =>
      rcases List.mem_append.1 hmem with hmem | hmem
      · exact hold hmem
      · cases List.mem_singleton.1 hmem
        exact ⟨payload, hrecord, Settled.mono hext hfits⟩
    | sendDlq letter => exact hold hmem
    | sendFeatures e => exact hold hmem
    | sendState e => exact hold hmem

/-- A process that goes on with another call for the same record. -/
theorem ProcessOk.retask (hp : ProcessOk config s process) (htask : process.task = some (pos, task))
    {latest : Str → Option Str} {next : Task} {payload : List UInt8}
    (hrecord : s.record pos = some (some payload)) (hfits : Fits config s pos payload next)
    (hlatest : ∀ k ts, latest k = some ts →
      (∃ pos e, (pos, .state e) ∈ s.durable ∧ e.entityId = k ∧ e.eventTs = ts) ∨
        ∃ e, next = .sendState e ∧ e.entityId = k ∧ e.eventTs = ts) :
    ProcessOk config s { process with latest := latest, task := some (pos, next) } where
  positions := fun p k hk o ho hlt => by
    rcases hp.positions p k hk o ho hlt with hh | ⟨t, ht⟩
    · exact .inl hh
    · cases htask.symm.trans ht
      exact .inr ⟨next, rfl⟩
  before := fun q t ht o ho hlt => by
    cases ht
    exact hp.before pos task htask o ho hlt
  fits := fun q t ht => by
    cases ht
    exact ⟨payload, hrecord, hfits⟩
  latest := fun k ts hts => by
    rcases hlatest k ts hts with hold | ⟨e, rfl, hrest⟩
    · exact .inl hold
    · exact .inr ⟨pos, e, rfl, hrest⟩

/-- What the process remembers is in Kafka, unless it is sending a state record. -/
theorem ProcessOk.remembered (hp : ProcessOk config s process)
    (htask : process.task = some (pos, task)) (hsend : ∀ e, task ≠ .sendState e) {k ts : Str}
    (hts : process.latest k = some ts) :
    ∃ pos e, (pos, .state e) ∈ s.durable ∧ e.entityId = k ∧ e.eventTs = ts := by
  rcases hp.latest k ts hts with h | ⟨q, e, he, -⟩
  · exact h
  · cases htask.symm.trans he
    exact absurd rfl (hsend e)

/-- The features record has been sent: the event is accepted, or one at least as recent is known. -/
theorem ProcessOk.resume_features {e : NormalizedEvent} (hp : ProcessOk config s process)
    (htask : process.task = some (pos, .sendFeatures e)) :
    ProcessOk config (s.effect pos (.sendFeatures e))
      (process.resume config pos (.sendFeatures e)) := by
  have hext := extends_effect s pos (.sendFeatures e)
  obtain ⟨payload, hrecord, houtcome⟩ := hp.fits pos _ htask
  have hdurable : (pos, .features e) ∈ (s.effect pos (.sendFeatures e)).durable := by
    simp [State.effect]
  have hemitted : Emitted config (s.effect pos (.sendFeatures e)) pos payload :=
    ⟨fun e' he' => by cases houtcome.symm.trans he'; exact hdurable,
      fun _ _ he' => by cases houtcome.symm.trans he'⟩
  have hremembered : ∀ k ts, process.latest k = some ts → ∃ pos' e',
      (pos', .state e') ∈ (s.effect pos (.sendFeatures e)).durable ∧ e'.entityId = k ∧
        e'.eventTs = ts := fun k ts hts => by
    obtain ⟨q, e', hmem, hrest⟩ := hp.remembered htask nofun hts
    exact ⟨q, e', hext.durable hmem, hrest⟩
  simp only [Process.resume]
  by_cases henabled : config.stateOutputEnabled = true
  · rw [if_pos henabled]
    -- the state is sent if no later one is remembered
    by_cases haccepts :
        ((process.latest e.entityId).all (bytes · ≤ bytes e.eventTs)) = true
    · rw [Rust.accepts_eq, if_pos haccepts]
      refine (hp.mono hext).retask htask hrecord ⟨houtcome, hdurable⟩ fun k ts hts => ?_
      by_cases hk : k = e.entityId
      · subst hk
        simp only [Function.update_self, Option.some.injEq] at hts
        exact .inr ⟨e, rfl, rfl, hts⟩
      · simp only [Function.update_of_ne hk] at hts
        exact .inl (hremembered k ts hts)
    · rw [Rust.accepts_eq, if_neg haccepts]
      refine (hp.mono hext).retask htask hrecord
        ⟨hemitted, fun _ e' he' => ?_, nofun⟩ fun k ts hts => .inl (hremembered k ts hts)
      cases houtcome.symm.trans he'
      cases hlatest : process.latest e.entityId with
      | none => simp [hlatest] at haccepts
      | some current =>
        obtain ⟨q, e', hmem, hentity, hts⟩ := hremembered _ _ hlatest
        refine ⟨q, e', hmem, hentity, le_of_lt ?_⟩
        rw [hts]
        simpa [hlatest] using haccepts
  · rw [if_neg henabled]
    exact (hp.mono hext).retask htask hrecord ⟨hemitted, fun h => absurd h henabled, nofun⟩
      fun k ts hts => .inl (hremembered k ts hts)

/-- **A call that succeeds** leaves a process that is in order. -/
theorem ProcessOk.resume (hp : ProcessOk config s process)
    (htask : process.task = some (pos, task)) :
    ProcessOk config (s.effect pos task) (process.resume config pos task) := by
  have hext := extends_effect s pos task
  obtain ⟨payload, hrecord, hfits⟩ := hp.fits pos _ htask
  cases task with
  | sendFeatures e => exact hp.resume_features htask
  | sendDlq letter =>
    obtain ⟨now, error, rawEvent, houtcome, rfl⟩ := hfits
    refine (hp.mono hext).retask htask hrecord ⟨⟨?_, ?_⟩, ?_, nofun⟩ fun k ts hts => .inl ?_
    · intro e he
      cases houtcome.symm.trans he
    · intro error' rawEvent' he
      cases houtcome.symm.trans he
      exact ⟨now, by simp [State.effect]⟩
    · intro _ e he
      cases houtcome.symm.trans he
    · exact (hp.mono hext).remembered htask nofun hts
  | sendState e =>
    obtain ⟨houtcome, hfeatures⟩ := hfits
    have hdurable : (pos, .state e) ∈ (s.effect pos (.sendState e)).durable := by
      simp [State.effect]
    refine (hp.mono hext).retask htask hrecord ⟨⟨?_, ?_⟩, ?_, ?_⟩ fun k ts hts => .inl ?_
    · intro e' he'
      cases houtcome.symm.trans he'
      exact hext.durable hfeatures
    · intro _ _ he'
      cases houtcome.symm.trans he'
    · intro _ e' he'
      cases houtcome.symm.trans he'
      exact ⟨pos, e, hdurable, rfl, le_rfl⟩
    · intro _ e' he'
      cases houtcome.symm.trans he'
      exact hdurable
    · rcases (hp.mono hext).latest k ts hts with h | ⟨q, e', he', hrest⟩
      · exact h
      · cases htask.symm.trans he'
        exact ⟨pos, e, hdurable, hrest⟩
  | commit accepted =>
    -- the position in hand joins the accounted ones, and the process is idle again
    have hp' := hp.mono hext
    refine ⟨fun p k hk o ho hlt => .inl ?_, nofun, nofun, fun k ts hts => .inl ?_⟩
    · rcases hp'.positions p k hk o ho hlt with hh | ⟨t, ht⟩
      · exact hh
      · cases htask.symm.trans ht
        exact ⟨some payload, hrecord, fun _ => ⟨accepted, by simp [State.effect]⟩⟩
    · exact hp'.remembered htask nofun hts

end Calls

/-! ### Steps -/

section Steps

variable {config} {s t : State}

theorem inv_initial (log : Partition → List (Option (List UInt8))) :
    Inv config (.initial log) where
  committed := nofun
  commits := nofun
  processes := nofun
  skipped := fun _ _ => rfl

theorem extends_append (s : State) (p : Partition) (payload : Option (List UInt8)) :
    Extends s { s with log := Function.update s.log p (s.log p ++ [payload]) } := by
  refine ⟨fun pos r hr => ?_, List.Subset.refl _, List.Subset.refl _, fun _ => le_rfl⟩
  simp only [State.record] at hr ⊢
  by_cases hp : pos.partition = p
  · rw [hp, Function.update_self]
    rw [hp] at hr
    exact List.getElem?_append_left (List.getElem?_eq_some_iff.1 hr).1 ▸ hr
  · rw [Function.update_of_ne hp]
    exact hr

theorem Inv.setAccepted (hinv : Inv config s) (accepted : List Position) :
    Inv config { s with accepted := accepted } := by
  have hext : Extends s { s with accepted := accepted } :=
    ⟨fun _ _ hr => hr, List.Subset.refl _, List.Subset.refl _, fun _ => le_rfl⟩
  exact hinv.mono hext rfl rfl hinv.skipped fun w q hq => (hinv.processes w q hq).mono hext

/-- A partition without a commit may have records that are skipped. -/
theorem Inv.setSkipped (hinv : Inv config s) (p : Partition) (k : ℕ)
    (hk : config.autoOffsetReset = .earliest → k = 0) :
    Inv config { s with skipped := Function.update s.skipped p (max (s.skipped p) k) } := by
  have hext : Extends s { s with skipped := Function.update s.skipped p (max (s.skipped p) k)
    } := by
    refine ⟨fun _ _ hr => hr, List.Subset.refl _, List.Subset.refl _, fun q => ?_⟩
    by_cases hq : q = p
    · subst hq
      simp
    · simp [hq]
  refine hinv.mono hext rfl rfl (fun hreset q => ?_) fun w r hr => (hinv.processes w r hr).mono hext
  by_cases hq : q = p
  · subst hq
    simp [hinv.skipped hreset, hk hreset]
  · simpa [hq] using hinv.skipped hreset q

/-- A position moves to where everything before it has been handled. -/
theorem ProcessOk.setPosition {process : Process} (hp : ProcessOk config s process) (p : Partition)
    (position : Option ℕ) (h : ∀ k, position = some k → ∀ o, s.skipped p ≤ o → o < k →
      Handled s ⟨p, o⟩ ∨ ∃ task, process.task = some (⟨p, o⟩, task)) :
    ProcessOk config s { process with
      positions := Function.update process.positions p position } := by
  refine ⟨fun q k hk => ?_, hp.before, hp.fits, hp.latest⟩
  by_cases hq : q = p
  · subst hq
    exact h k (by simpa using hk)
  · exact hp.positions q k (by simpa [hq] using hk)

theorem inv_assign (hinv : Inv config s) {w : ℕ} {process : Process}
    (hw : s.processes w = some process) (p : Partition) :
    Inv config { s.setProcess w (some { process with
          positions := Function.update process.positions p (some (s.start config p)) }) with
        skipped := if (s.committed p).isNone then
            Function.update s.skipped p (max (s.skipped p) (s.start config p))
          else s.skipped } := by
  have hp := hinv.processes w process hw
  cases hcommitted : s.committed p with
  | some k =>
    refine hinv.setProcess w _ fun q hq => ?_
    cases hq
    refine hp.setPosition p _ fun k' hk' o ho hlt => .inl (hinv.committed p k hcommitted o ho ?_)
    cases hk'
    simpa [State.start, hcommitted] using hlt
  | none =>
    have hinv' := hinv.setSkipped p (s.start config p) fun hreset => by
      simp [State.start, hcommitted, hreset]
    refine hinv'.setProcess w _ fun q hq => ?_
    cases hq
    refine (hinv'.processes w process hw).setPosition p _ fun k hk o ho hlt => ?_
    -- what lies before the position is skipped
    cases hk
    simp only [Function.update_self] at ho
    omega

theorem inv_recv (hinv : Inv config s) {w : ℕ} {p : Partition} {now : String}
    (next : step config s (.recv w p now) = some t) : Inv config t := by
  obtain ⟨process, hw, next⟩ := Option.bind_eq_some_iff.1 next
  have hp := hinv.processes w process hw
  split_ifs at next with hidle
  obtain ⟨offset, hoffset, next⟩ := Option.bind_eq_some_iff.1 next
  obtain ⟨record, hrecord, next⟩ := Option.bind_eq_some_iff.1 next
  cases next
  have htask : process.task = none := by simpa using hidle
  -- the process was idle, so that everything before its positions has been handled
  have hbefore : ∀ q k, process.positions q = some k → ∀ o, s.skipped q ≤ o → o < k →
      Handled s ⟨q, o⟩ := fun q k hk o ho hlt => by
    rcases hp.positions q k hk o ho hlt with hh | ⟨task, ht⟩
    · exact hh
    · cases htask.symm.trans ht
  refine hinv.setProcess w _ fun q hq => ?_
  cases hq
  constructor
  · intro q k hk o ho hlt
    by_cases hq : q = p
    · subst hq
      simp only [Function.update_self, Option.some.injEq] at hk
      rcases Nat.lt_or_ge o offset with hlt' | hge
      · exact .inl (hbefore q offset hoffset o ho hlt')
      · obtain rfl : o = offset := by omega
        cases record with
        | none => exact .inl ⟨none, hrecord, nofun⟩
        | some payload => exact .inr ⟨_, rfl⟩
    · simp only [Function.update_of_ne hq] at hk
      exact .inl (hbefore q k hk o ho hlt)
  · intro pos task ht o ho hlt
    obtain ⟨payload, rfl, heq⟩ := Option.map_eq_some_iff.1 ht
    cases heq
    exact hbefore p offset hoffset o ho hlt
  · intro pos task ht
    obtain ⟨payload, rfl, heq⟩ := Option.map_eq_some_iff.1 ht
    cases heq
    refine ⟨payload, hrecord, ?_⟩
    cases houtcome : outcome config p.topic payload with
    | event e => exact houtcome
    | refused error rawEvent => exact ⟨now, error, rawEvent, houtcome, rfl⟩
  · intro k ts hts
    rcases hp.latest k ts hts with h | ⟨pos, e, he, -⟩
    · exact .inl h
    · cases htask.symm.trans he

/-- **Every step keeps the invariant.** -/
theorem inv_step {l : Action} (hinv : Inv config s) (next : step config s l = some t) :
    Inv config t := by
  cases l with
  | append p payload =>
    cases next
    have hext := extends_append s p payload
    exact hinv.mono hext rfl rfl hinv.skipped fun w q hq => (hinv.processes w q hq).mono hext
  | start w =>
    rw [step] at next
    split_ifs at next
    cases next
    refine hinv.setProcess w _ fun q hq => ?_
    cases hq
    exact ⟨nofun, nofun, nofun, nofun⟩
  | stop w =>
    cases next
    refine hinv.setProcess w none fun q hq => ?_
    cases hq
  | assign w p =>
    obtain ⟨process, hw, rfl⟩ := Option.map_eq_some_iff.1 next
    exact inv_assign hinv hw p
  | revoke w p =>
    obtain ⟨process, hw, rfl⟩ := Option.map_eq_some_iff.1 next
    refine hinv.setProcess w _ fun q hq => ?_
    cases hq
    exact (hinv.processes w process hw).setPosition p none fun k hk => by cases hk
  | recv w p now => exact inv_recv hinv next
  | succeed w =>
    obtain ⟨process, hw, next⟩ := Option.bind_eq_some_iff.1 next
    obtain ⟨⟨pos, task⟩, htask, next⟩ := Option.bind_eq_some_iff.1 next
    cases next
    have hp := hinv.processes w process hw
    refine Inv.setAccepted ((hinv.effect hp htask).setProcess w _ fun q hq => ?_) _
    cases hq
    exact hp.resume htask
  | succeedAndStop w =>
    obtain ⟨process, hw, next⟩ := Option.bind_eq_some_iff.1 next
    obtain ⟨⟨pos, task⟩, htask, next⟩ := Option.bind_eq_some_iff.1 next
    cases next
    refine (hinv.effect (hinv.processes w process hw) htask).setProcess w none fun q hq => ?_
    cases hq

end Steps

/-- **The normalizer loses no record.** In every state that is reached, whatever crashes and is
delivered again: a record with a payload below the committed offset, and not before a place where
`auto.offset.reset` made the group start, has its features record or its dead letter in Kafka. With
state output, a state record of its entity that is at least as recent is there, too, and its own one
is if the event was accepted as latest by a process whose commit of the record took effect. -/
theorem normalizer_loses_no_record {log : Partition → List (Option (List UInt8))} {s : State}
    (run : Reach (step config) Free (.initial log) s) (pos : Position) (payload : List UInt8)
    (k : ℕ) (hrecord : s.record pos = some (some payload))
    (hcommitted : s.committed pos.partition = some k)
    (hpast : pos.offset < k)
    (hread : config.autoOffsetReset = .earliest ∨ s.skipped pos.partition ≤ pos.offset) :
    Emitted config s pos payload ∧ (config.stateOutputEnabled = true → ∀ e,
      outcome config pos.partition.topic payload = .event e →
        Projected s e ∧ ((pos, true) ∈ s.commits → (pos, .state e) ∈ s.durable)) := by
  have hinv : Inv config s := run.invariant (Inv config) (inv_initial log) fun _ h _ => inv_step h
  have hskipped : s.skipped pos.partition ≤ pos.offset := by
    rcases hread with hreset | hle
    · rw [hinv.skipped hreset]
      exact Nat.zero_le _
    · exact hle
  obtain ⟨record, hrecord', hcommit⟩ := hinv.committed _ k hcommitted pos.offset hskipped hpast
  cases hrecord.symm.trans hrecord'
  have hsettled : ∀ accepted, (pos, accepted) ∈ s.commits →
      Settled config s pos payload accepted := fun accepted hmem => by
    obtain ⟨payload', hpayload, hsettled⟩ := hinv.commits pos accepted hmem
    cases hrecord.symm.trans hpayload
    exact hsettled
  obtain ⟨accepted, hmem⟩ := hcommit rfl
  have h := hsettled accepted hmem
  exact ⟨h.emitted, fun henabled e he => ⟨h.projected henabled e he,
    fun hown => (hsettled true hown).own rfl e he⟩⟩

/-! ### A state record that is never written -/

/-- State output, and payloads without doubles. -/
def sampleConfig : Config := ⟨.nearest, true, .earliest⟩

/-- The place of a record that is the first one of its topic. -/
def firstOf (topic : String) : Position := ⟨⟨topic, 0⟩, 0⟩

/-- A record of the device `a`. -/
def samplePayload (timestamp : String) : List UInt8 :=
  encode ("\x7b\"device_id\":\"a\",\"timestamp\":\"" ++ timestamp ++ "\"\x7d").toList

/-- An older record in one topic and a newer one of the same device in another. -/
def sampleLog (p : Partition) : List (Option (List UInt8)) :=
  if p = ⟨"raw.sensor", 0⟩ then [some (samplePayload "1")]
  else if p = ⟨"raw.gps", 0⟩ then [some (samplePayload "2")]
  else []

/-- The older event is accepted, and the process stops before its state record is sent. The next
process reads the newer event first. -/
def sampleRun : List Action :=
  [.start 0, .assign 0 ⟨"raw.sensor", 0⟩, .recv 0 ⟨"raw.sensor", 0⟩ "", .succeed 0, .stop 0,
    .start 0, .assign 0 ⟨"raw.gps", 0⟩, .recv 0 ⟨"raw.gps", 0⟩ "", .succeed 0, .succeed 0,
    .succeed 0, .assign 0 ⟨"raw.sensor", 0⟩, .recv 0 ⟨"raw.sensor", 0⟩ "", .succeed 0, .succeed 0]

def sampleOlder : NormalizedEvent := { Streams.sampleEvent "1" with
  rawJson := "\x7b\"device_id\":\"a\",\"timestamp\":\"1\"\x7d" }

/-- What the run leads to. -/
def SampleReached (s : State) : Prop :=
  s.record (firstOf "raw.sensor") = some (some (samplePayload "1")) ∧
    s.committed ⟨"raw.sensor", 0⟩ = some 1 ∧
    outcome sampleConfig "raw.sensor" (samplePayload "1") = .event sampleOlder ∧
    firstOf "raw.sensor" ∈ s.accepted ∧ (firstOf "raw.sensor", .state sampleOlder) ∉ s.durable

instance (s : State) : Decidable (SampleReached s) :=
  inferInstanceAs (Decidable (_ ∧ _ ∧ _ ∧ _ ∧ _))

theorem sampleRun_reached :
    ∃ s, Reach (step sampleConfig) Free (.initial sampleLog) s ∧ SampleReached s := by
  have hrun : (runLabels (step sampleConfig) Free (.initial sampleLog) sampleRun).any
      (fun s => decide (SampleReached s)) = true := by
    decide +kernel
  obtain ⟨s, hs, hreached⟩ := (Option.any_eq_true _ _).1 hrun
  exact ⟨s, reach_of_runLabels hs, of_decide_eq_true hreached⟩

/-- The state record of the newer event stands for the older one. -/
theorem normalizer_loses_no_record_sample :
    ∃ s, Reach (step sampleConfig) Free (.initial sampleLog) s ∧
      Emitted sampleConfig s (firstOf "raw.sensor") (samplePayload "1") ∧
      Projected s sampleOlder := by
  obtain ⟨s, hs, hrecord, hcommitted, houtcome, -, -⟩ := sampleRun_reached
  have h := normalizer_loses_no_record sampleConfig hs (firstOf "raw.sensor") (samplePayload "1") 1
    hrecord hcommitted (by decide) (.inl rfl)
  exact ⟨s, hs, h.1, (h.2 rfl _ houtcome).1⟩

/-- The older event was accepted as latest, its offset is committed, and its state record is not in
Kafka. -/
theorem accepted_event_not_projected :
    ∃ s, Reach (step sampleConfig) Free (.initial sampleLog) s ∧
      s.record (firstOf "raw.sensor") = some (some (samplePayload "1")) ∧
      s.committed ⟨"raw.sensor", 0⟩ = some 1 ∧
      outcome sampleConfig "raw.sensor" (samplePayload "1") = .event sampleOlder ∧
      firstOf "raw.sensor" ∈ s.accepted ∧ (firstOf "raw.sensor", .state sampleOlder) ∉ s.durable :=
  sampleRun_reached

/-- **A group that starts at the end loses what was there**: with `auto.offset.reset=latest` the
offset of the first record is committed with the one of the next record, and nothing
is made of it. -/
theorem latest_reset_loses_record :
    ∃ s, Reach (step { sampleConfig with autoOffsetReset := .latest }) Free (.initial sampleLog) s ∧
      s.record (firstOf "raw.sensor") = some (some (samplePayload "1")) ∧
      s.committed ⟨"raw.sensor", 0⟩ = some 2 ∧
      ¬ Emitted { sampleConfig with autoOffsetReset := .latest } s (firstOf "raw.sensor")
        (samplePayload "1") := by
  have hrun : (runLabels (step { sampleConfig with autoOffsetReset := .latest }) Free
      (.initial sampleLog) [.start 0, .assign 0 ⟨"raw.sensor", 0⟩,
        .append ⟨"raw.sensor", 0⟩ (some (samplePayload "2")), .recv 0 ⟨"raw.sensor", 0⟩ "",
        .succeed 0, .succeed 0, .succeed 0]).any (fun s => decide
          (s.record (firstOf "raw.sensor") = some (some (samplePayload "1")) ∧
            s.committed ⟨"raw.sensor", 0⟩ = some 2 ∧
            outcome sampleConfig "raw.sensor" (samplePayload "1") = .event sampleOlder ∧
            (firstOf "raw.sensor", .features sampleOlder) ∉ s.durable)) = true := by
    decide +kernel
  obtain ⟨s, hs, hreached⟩ := (Option.any_eq_true _ _).1 hrun
  obtain ⟨hrecord, hcommitted, houtcome, hlost⟩ := of_decide_eq_true hreached
  exact ⟨s, reach_of_runLabels hs, hrecord, hcommitted, fun h => hlost (h.features _ houtcome)⟩

end ArchiDeal.Streams.Consume
