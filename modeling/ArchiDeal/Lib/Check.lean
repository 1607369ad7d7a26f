import Mathlib.Data.List.Basic

/-!
# Sequences of checks

A validator raises at its first failing check. It is written in the `Except` monad with `ensure`;
the lemmas here turn "the validator accepted" into the conjunction of its checks. A traversal that
may fail is inverted in the same way.
-/

namespace ArchiDeal

variable {ε α β : Type}

instance instDecidableEqExcept [DecidableEq ε] [DecidableEq α] : DecidableEq (Except ε α)
  | .ok a, .ok b =>
    if h : a = b then .isTrue (congrArg _ h) else .isFalse fun hab => h (Except.ok.inj hab)
  | .error e, .error f =>
    if h : e = f then .isTrue (congrArg _ h) else .isFalse fun hef => h (Except.error.inj hef)
  | .ok _, .error _ => .isFalse (by rintro ⟨⟩)
  | .error _, .ok _ => .isFalse (by rintro ⟨⟩)

/-- Raise `e` unless `c` holds. -/
def ensure (c : Bool) (e : ε) : Except ε Unit := if c then .ok () else .error e

theorem ensure_eq_ok {c : Bool} {e : ε} {u : Unit} : ensure c e = .ok u ↔ c = true := by
  cases c <;> simp [ensure]

@[simp] theorem ensure_true (e : ε) : ensure true e = .ok () := rfl

@[simp] theorem ensure_false (e : ε) : ensure false e = .error e := rfl

/-- A sequence succeeds when its first part does and the rest does with its result. -/
theorem bind_eq_ok {x : Except ε α} {f : α → Except ε β} {b : β} :
    x >>= f = .ok b ↔ ∃ a, x = .ok a ∧ f a = .ok b := by
  rcases x with e | a <;> simp [bind, Except.bind]

theorem map_eq_ok {x : Except ε α} {f : α → β} {b : β} :
    f <$> x = .ok b ↔ ∃ a, x = .ok a ∧ f a = b := by
  rcases x with e | a <;> simp [Functor.map, Except.map]

theorem pure_eq_ok {a b : α} : (pure a : Except ε α) = .ok b ↔ a = b := by
  simp [pure, Except.pure]

@[simp] theorem ok_bind (a : α) (f : α → Except ε β) : (Except.ok a >>= f) = f a := rfl

@[simp] theorem error_bind (e : ε) (f : α → Except ε β) :
    ((Except.error e : Except ε α) >>= f) = .error e := rfl

section IsOk

@[simp] theorem isOk_ok (a : α) : (Except.ok a : Except ε α).isOk = true := rfl

@[simp] theorem isOk_error (e : ε) : (Except.error e : Except ε α).isOk = false := rfl

@[simp] theorem isOk_pure (a : α) : (pure a : Except ε α).isOk = true := rfl

@[simp] theorem isOk_throw (e : ε) : (throw e : Except ε α).isOk = false := rfl

@[simp] theorem isOk_ensure (c : Bool) (e : ε) : (ensure c e).isOk = c := by cases c <;> rfl

/-- A check before the rest of a validator is one more condition. -/
@[simp] theorem isOk_check_bind (x : Except ε Unit) (f : Unit → Except ε β) :
    (x >>= f).isOk = (x.isOk && (f ()).isOk) := by
  rcases x with e | ⟨⟨⟩⟩ <;> rfl

theorem isOk_iff {x : Except ε α} : x.isOk = true ↔ ∃ a, x = .ok a := by
  rcases x with e | a <;> simp

end IsOk

@[simp] theorem toOption_ok (a : α) : (Except.ok a : Except ε α).toOption = some a := rfl

@[simp] theorem toOption_error (e : ε) : (Except.error e : Except ε α).toOption = none := rfl

theorem toOption_eq_some {x : Except ε α} {a : α} : x.toOption = some a ↔ x = .ok a := by
  cases x <;> simp

/-- Every exception of `x` satisfies `P`. -/
def Raises (P : ε → Prop) (x : Except ε α) : Prop := ∀ e, x = .error e → P e

section Raises

variable {P : ε → Prop} {e : ε}

theorem raises_ok (a : α) : Raises P (.ok a : Except ε α) := nofun

theorem raises_error (h : P e) : Raises P (.error e : Except ε α) := by
  rintro e' ⟨⟩
  exact h

theorem raises_ensure (c : Bool) (h : P e) : Raises P (ensure c e) := by
  cases c
  · exact raises_error h
  · exact raises_ok ()

theorem Raises.bind {x : Except ε α} {f : α → Except ε β} (hx : Raises P x)
    (hf : ∀ a, Raises P (f a)) : Raises P (x >>= f) := by
  rcases x with e | a
  · rintro e' ⟨⟩
    exact hx e rfl
  · exact hf a

end Raises

/-- What a traversal returns, seen through `h`, is what `g` selects from its input. -/
theorem map_of_mapM {γ : Type} {f : α → Option β} {g : α → Option γ} {h : β → γ}
    (hfg : ∀ a b, f a = some b → g a = some (h b)) {xs : List α} {ys : List β}
    (hm : xs.mapM f = some ys) : ys.map h = xs.filterMap g := by
  induction xs generalizing ys with
  | nil => cases hm; rfl
  | cons x xs ih =>
    rw [List.mapM_cons] at hm
    obtain ⟨y, hy, hm⟩ := Option.bind_eq_some_iff.1 hm
    obtain ⟨ys', hys, hm⟩ := Option.bind_eq_some_iff.1 hm
    cases hm
    rw [List.map_cons, List.filterMap_cons_some (hfg x y hy), ih hys]

theorem forall₂_of_mapM {f : α → Except ε β} {xs : List α} {ys : List β}
    (h : xs.mapM f = .ok ys) : List.Forall₂ (fun a b => f a = .ok b) xs ys := by
  induction xs generalizing ys with
  | nil =>
    cases h
    exact .nil
  | cons x xs ih =>
    rw [List.mapM_cons] at h
    obtain ⟨y, hy, h⟩ := bind_eq_ok.1 h
    obtain ⟨ys', hys, h⟩ := bind_eq_ok.1 h
    cases h
    exact .cons hy (ih hys)

/-- Every item of a traversal that succeeds has its result among the results. -/
theorem exists_mem_of_mapM {f : α → Except ε β} {xs : List α} {ys : List β}
    (h : xs.mapM f = .ok ys) {a : α} (ha : a ∈ xs) : ∃ b ∈ ys, f a = .ok b := by
  have hall := forall₂_of_mapM h
  clear h
  induction hall with
  | nil => cases ha
  | cons hb _ ih =>
    rcases List.mem_cons.1 ha with rfl | ha
    · exact ⟨_, List.mem_cons_self, hb⟩
    · obtain ⟨b, hmem, hb⟩ := ih ha
      exact ⟨b, List.mem_cons_of_mem _ hmem, hb⟩

/-- Every result of a traversal that succeeds is that of an item. -/
theorem exists_item_of_mapM {f : α → Except ε β} {xs : List α} {ys : List β}
    (h : xs.mapM f = .ok ys) {b : β} (hb : b ∈ ys) : ∃ a ∈ xs, f a = .ok b := by
  have hall := forall₂_of_mapM h
  clear h
  induction hall with
  | nil => cases hb
  | cons ha _ ih =>
    rcases List.mem_cons.1 hb with rfl | hb
    · exact ⟨_, List.mem_cons_self, ha⟩
    · obtain ⟨a, hmem, ha⟩ := ih hb
      exact ⟨a, List.mem_cons_of_mem _ hmem, ha⟩

/-- A traversal whose every step succeeds with a related result succeeds. -/
theorem exists_mapM {f : α → Except ε β} {R : α → β → Prop} {xs : List α}
    (h : ∀ a ∈ xs, ∃ b, f a = .ok b ∧ R a b) :
    ∃ ys, xs.mapM f = .ok ys ∧ List.Forall₂ R xs ys := by
  induction xs with
  | nil => exact ⟨[], rfl, .nil⟩
  | cons x xs ih =>
    rw [List.forall_mem_cons] at h
    obtain ⟨⟨y, hy, hr⟩, hxs⟩ := h
    obtain ⟨ys, hys, hrs⟩ := ih hxs
    exact ⟨y :: ys, by rw [List.mapM_cons, hy, ok_bind, hys]; rfl, .cons hr hrs⟩

theorem forM_eq_ok {f : α → Except ε Unit} {xs : List α} :
    xs.forM f = .ok () ↔ ∀ x ∈ xs, f x = .ok () := by
  induction xs with
  | nil => simp [List.forM, pure, Except.pure]
  | cons x xs ih =>
    rw [List.forall_mem_cons, ← ih]
    constructor
    · intro h
      obtain ⟨_, hx, hxs⟩ := bind_eq_ok.1 h
      exact ⟨hx, hxs⟩
    · rintro ⟨hx, hxs⟩
      exact bind_eq_ok.2 ⟨(), hx, hxs⟩

theorem foldlM_induction {σ : Type} {f : σ → α → Except ε σ} {P : List α → σ → Prop} {s t : σ}
    {xs : List α} (hs : P [] s)
    (hstep : ∀ done a u u', P done u → f u a = .ok u' → P (done ++ [a]) u')
    (h : xs.foldlM f s = .ok t) : P xs t := by
  suffices hall : ∀ done u, P done u → xs.foldlM f u = .ok t → P (done ++ xs) t from hall [] s hs h
  clear h hs
  induction xs with
  | nil =>
    rintro done u hu ⟨⟩
    rwa [List.append_nil]
  | cons x xs ih =>
    intro done u hu h
    rw [List.foldlM_cons] at h
    obtain ⟨u', hu', h⟩ := bind_eq_ok.1 h
    have hlast := ih (done ++ [x]) u' (hstep done x u u' hu hu') h
    rwa [List.append_assoc, List.singleton_append] at hlast

end ArchiDeal
