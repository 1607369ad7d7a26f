import Mathlib.Data.Option.Basic
import Mathlib.Algebra.Order.Group.Nat

/-!
# Labelled transition systems and their runs

A system is a partial function `step : σ → ℓ → Option σ`: the label names the action and carries
everything the environment chooses, and `none` says that the action is not enabled.

* `Reach step ok s t`: a run leads from `s` to `t`, and every step of it satisfies `ok` in the
  state it is taken from; `ok` is `Free` for unrestricted runs;
* `Reach.invariant`: the invariant rule;
* `runLabels`: the executable run of a list of labels;
* `recorded`: the system with a record of what its steps commit;
* `Reach.version`: a counter that grows with every change of a part of the state identifies that
  part along the run;
* `Reach.fenced`: a fencing token that was replaced never comes back.
-/

namespace ArchiDeal.Transition

variable {σ ℓ α : Type}

/-- The condition that every step satisfies. -/
def Free : σ → ℓ → Prop := fun _ _ => True

instance (s : σ) (l : ℓ) : Decidable (Free s l) := inferInstanceAs (Decidable True)

/-- A run from `s` to the second state, all of whose steps satisfy `ok`. -/
inductive Reach (step : σ → ℓ → Option σ) (ok : σ → ℓ → Prop) (s : σ) : σ → Prop
  | refl : Reach step ok s s
  | tail {t u : σ} {l : ℓ} (run : Reach step ok s t) (good : ok t l) (next : step t l = some u) :
      Reach step ok s u

variable {step : σ → ℓ → Option σ} {ok : σ → ℓ → Prop}

theorem Reach.trans {s t u : σ} (h₁ : Reach step ok s t) (h₂ : Reach step ok t u) :
    Reach step ok s u := by
  induction h₂ with
  | refl => exact h₁
  | tail _ good next ih => exact ih.tail good next

theorem Reach.single {s t : σ} {l : ℓ} (good : ok s l) (next : step s l = some t) :
    Reach step ok s t :=
  Reach.refl.tail good next

theorem Reach.free {s t : σ} (h : Reach step ok s t) : Reach step Free s t := by
  induction h with
  | refl => exact .refl
  | tail _ _ next ih => exact ih.tail trivial next

/-- **The invariant rule.** What holds initially and is preserved by every step of the run that
satisfies the condition holds in every state reached. -/
theorem Reach.invariant (Inv : σ → Prop) {s t : σ} (h : Reach step ok s t) (h0 : Inv s)
    (hstep : ∀ {a l b}, Reach step ok s a → Inv a → ok a l → step a l = some b → Inv b) :
    Inv t := by
  induction h with
  | refl => exact h0
  | tail run good next ih => exact hstep run ih good next

/-- A relation that is reflexive and transitive and holds across every step of the run holds between
its ends. -/
theorem Reach.related (R : σ → σ → Prop) (hrefl : ∀ a, R a a)
    (htrans : ∀ {a b c}, R a b → R b c → R a c) {s t : σ} (h : Reach step ok s t)
    (hstep : ∀ {a l b}, Reach step ok s a → ok a l → step a l = some b → R a b) : R s t :=
  h.invariant (R s) (hrefl s) fun run hR good next => htrans hR (hstep run good next)

/-- The executable run of a list of labels, as long as they satisfy the condition. -/
def runLabels (step : σ → ℓ → Option σ) (ok : σ → ℓ → Prop) [∀ s l, Decidable (ok s l)] :
    σ → List ℓ → Option σ
  | s, [] => some s
  | s, l :: ls => if ok s l then (step s l).bind fun t => runLabels step ok t ls else none

theorem reach_of_runLabels [∀ s l, Decidable (ok s l)] {s t : σ} {ls : List ℓ}
    (h : runLabels step ok s ls = some t) : Reach step ok s t := by
  induction ls generalizing s with
  | nil => cases h; exact .refl
  | cons l ls ih =>
    unfold runLabels at h
    split_ifs at h with good
    obtain ⟨u, hu, ht⟩ := Option.bind_eq_some_iff.1 h
    exact (Reach.single good hu).trans (ih ht)

/-! ### Histories -/

/-- The system together with a record of what its steps have committed. -/
def recorded (step : σ → ℓ → Option σ) (commits : σ → ℓ → List α) (r : σ × List α) (l : ℓ) :
    Option (σ × List α) :=
  (step r.1 l).map fun s => (s, r.2 ++ commits r.1 l)

theorem recorded_eq_some {commits : σ → ℓ → List α} {r r' : σ × List α} {l : ℓ}
    (h : recorded step commits r l = some r') :
    step r.1 l = some r'.1 ∧ r'.2 = r.2 ++ commits r.1 l := by
  obtain ⟨s, hs, rfl⟩ := Option.map_eq_some_iff.1 h
  exact ⟨hs, rfl⟩

/-! ### Versions -/

/-- **A version identifies what it versions.** If each step either leaves the content and the
version alone or makes the version larger, then along a run the version never decreases, and two
states of the run with the same version have the same content. -/
theorem Reach.version (version : σ → ℕ) (content : σ → α) {s t : σ} (h : Reach step ok s t)
    (hstep : ∀ {a l b}, Reach step ok s a → step a l = some b →
      (version b = version a ∧ content b = content a) ∨ version a < version b) :
    version s ≤ version t ∧ (version t = version s → content t = content s) := by
  induction h with
  | refl => exact ⟨le_rfl, fun _ => rfl⟩
  | tail run _ next ih =>
    obtain ⟨hle, heq⟩ := ih
    rcases hstep run next with ⟨hv, hc⟩ | hlt
    · exact ⟨hv ▸ hle, fun hu => hc.trans (heq (hv ▸ hu))⟩
    · exact ⟨hle.trans hlt.le, fun hu => absurd hu (by omega)⟩

/-! ### Fencing tokens -/

/-- **A fencing token that was replaced never comes back.** If each step leaves the stored token
alone, clears it, or stores one that had not been issued, then a token that was issued and is not
stored is not stored again. -/
theorem Reach.fenced {τ : Type} (stored : σ → Option τ) (issued : σ → τ → Prop) {s t : σ} {x : τ}
    (h : Reach step ok s t)
    (hissued : ∀ {a l b y}, Reach step ok s a → step a l = some b → issued a y → issued b y)
    (hstored : ∀ {a l b y}, Reach step ok s a → step a l = some b → stored b = some y →
      stored a = some y ∨ ¬ issued a y)
    (hx : issued s x) (hs : stored s ≠ some x) : issued t x ∧ stored t ≠ some x := by
  refine h.invariant (fun t => issued t x ∧ stored t ≠ some x) ⟨hx, hs⟩ ?_
  rintro a l b run ⟨ha, hne⟩ - next
  refine ⟨hissued run next ha, fun hb => ?_⟩
  rcases hstored run next hb with hold | hnew
  · exact hne hold
  · exact hnew ha

end ArchiDeal.Transition
