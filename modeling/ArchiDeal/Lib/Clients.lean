import ArchiDeal.Lib.Transition
import Mathlib.Logic.Function.Basic

/-!
# Clients of a shared store

Clients run their programs on one store. A client takes an action at a time, which reads and changes
the store and moves its program counter; the actions of different clients interleave in any order.

* `State`, `step`: the system as a transition system; a label is a client and a choice of the
  environment;
* `relyGuarantee`: what each client asserts at its program counter holds in every run, if its own
  actions establish it and no action of another client breaks it.
-/

namespace ArchiDeal.Clients

open Transition

variable {W σ π ℓ : Type} [DecidableEq W]

/-- The store, and where each client is. -/
structure State (W σ π : Type) where
  store : σ
  pc : W → π

/-- A client takes an action, if it is enabled. -/
def step (act : σ → π → ℓ → Option (σ × π)) (s : State W σ π) (l : W × ℓ) : Option (State W σ π) :=
  (act s.store (s.pc l.1) l.2).map fun r => ⟨r.1, Function.update s.pc l.1 r.2⟩

variable {act : σ → π → ℓ → Option (σ × π)} {ok : State W σ π → W × ℓ → Prop}

theorem step_eq_some {s t : State W σ π} {l : W × ℓ} (h : step act s l = some t) :
    ∃ store pc, act s.store (s.pc l.1) l.2 = some (store, pc) ∧
      t = ⟨store, Function.update s.pc l.1 pc⟩ := by
  obtain ⟨⟨store, pc⟩, hact, rfl⟩ := Option.map_eq_some_iff.1 h
  exact ⟨store, pc, hact, rfl⟩

/-- **The rule for interleaved clients.** An invariant of the store and the assertions of all
clients hold in every state of a run, if each action keeps the invariant, establishes the assertion
of the client that takes it, and keeps the assertions of the others. -/
theorem relyGuarantee (Inv : σ → Prop) (Asserts : W → σ → π → Prop) {s t : State W σ π}
    (run : Reach (step act) ok s t) (hinv : Inv s.store)
    (hasserts : ∀ w, Asserts w s.store (s.pc w))
    (hact : ∀ {a : State W σ π} {w c store pc}, Inv a.store → (∀ v, Asserts v a.store (a.pc v)) →
      ok a (w, c) → act a.store (a.pc w) c = some (store, pc) →
      Inv store ∧ Asserts w store pc ∧ ∀ v, v ≠ w → Asserts v store (a.pc v)) :
    Inv t.store ∧ ∀ w, Asserts w t.store (t.pc w) := by
  refine run.invariant (fun t => Inv t.store ∧ ∀ w, Asserts w t.store (t.pc w)) ⟨hinv, hasserts⟩ ?_
  rintro a ⟨w, c⟩ b - ⟨ha, has⟩ good next
  obtain ⟨store, pc, hdo, rfl⟩ := step_eq_some next
  obtain ⟨hstore, hown, hothers⟩ := hact ha has good hdo
  refine ⟨hstore, fun v => ?_⟩
  change Asserts v store (Function.update a.pc w pc v)
  by_cases hv : v = w
  · subst hv
    rwa [Function.update_self]
  · rw [Function.update_of_ne hv]
    exact hothers v hv

end ArchiDeal.Clients
