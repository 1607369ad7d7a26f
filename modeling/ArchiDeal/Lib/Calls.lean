import Mathlib.Data.List.Basic

/-!
# Programs that call a server

A client program is a tree of calls: each node names a call and continues with its reply. The
server answers a call from its state and then changes the state. Between two calls the state may
drift on its own, and a call may be lost, either before or after it has taken effect; the client
learns only that the call failed, and its run ends there.

* `Prog`, its monad, `Prog.handle` for `try … except` and `Prog.each` for loops;
* `Server`, `Weather` (what happens around one call) and `Prog.run`;
* `Prog.wp`: the weakest precondition over all weathers, sound for `Prog.run`;
* `Prog.Triple`: Hoare triples with a condition for each way a run ends, and their rules;
* `Server.traced`, `Prog.Along`: what holds in every state of a run;
* `Prog.Only`: the calls a program may make, and the invariant rule `Prog.Only.triple`;
* `Prog.Raising`: the exceptions a program may raise.
-/

namespace ArchiDeal.Calls

variable {κ : Type} {ρ : κ → Type} {ε α β σ δ : Type}

/-- A program that makes calls `c : κ` with replies in `ρ c` and raises exceptions `ε`. -/
inductive Prog (κ : Type) (ρ : κ → Type) (ε α : Type)
  | pure (a : α)
  | fail (e : ε)
  | call (c : κ) (next : ρ c → Prog κ ρ ε α)

namespace Prog

/-- Run `f` on the result of a program. -/
def bind : Prog κ ρ ε α → (α → Prog κ ρ ε β) → Prog κ ρ ε β
  | pure a, f => f a
  | fail e, _ => fail e
  | call c k, f => call c fun x => (k x).bind f

instance : Monad (Prog κ ρ ε) where
  pure := pure
  bind := bind

/-- `try: p except …: h`; a lost call is not caught. -/
def handle : Prog κ ρ ε α → (ε → Prog κ ρ ε α) → Prog κ ρ ε α
  | pure a, _ => pure a
  | fail e, h => h e
  | call c k, h => call c fun x => (k x).handle h

/-- One call. -/
def invoke (c : κ) : Prog κ ρ ε (ρ c) := call c pure

/-- A computation without calls. -/
def lift : Except ε α → Prog κ ρ ε α
  | .ok a => pure a
  | .error e => fail e

/-- `for x in xs: f(x)`. -/
def each (f : β → Prog κ ρ ε Unit) : List β → Prog κ ρ ε Unit
  | [] => pure ()
  | x :: xs => (f x).bind fun _ => each f xs

end Prog

/-- A server with states `σ`; `δ` are the changes of its state that no call makes. -/
structure Server (σ κ : Type) (ρ : κ → Type) (δ : Type) where
  reply : (c : κ) → σ → ρ c
  effect : κ → σ → σ
  drift : δ → σ → σ

/-- What becomes of a call. -/
inductive Fate
  | served
  | lostBefore
  | lostAfter
  deriving DecidableEq

/-- What happens around one call. -/
structure Weather (δ : Type) where
  drifts : List δ
  fate : Fate

instance : Inhabited (Weather δ) := ⟨⟨[], .served⟩⟩

/-- How a run ends. -/
inductive Outcome (ε α : Type)
  | returned (a : α)
  | raised (e : ε)
  | lost
  deriving DecidableEq

namespace Server

variable (S : Server σ κ ρ δ)

/-- The state after some drift. -/
def drifted (s : σ) (ds : List δ) : σ := ds.foldl (fun s d => S.drift d s) s

/-- The server that also keeps the calls with `visible` that took effect. -/
def logged (visible : κ → Bool) : Server (σ × List κ) κ ρ δ where
  reply c s := S.reply c s.1
  effect c s := (S.effect c s.1, if visible c then s.2 ++ [c] else s.2)
  drift d s := (S.drift d s.1, s.2)

/-- The server that also keeps the states after its calls. -/
def traced : Server (σ × List σ) κ ρ δ where
  reply c s := S.reply c s.1
  effect c s := (S.effect c s.1, s.2 ++ [S.effect c s.1])
  drift d s := (S.drift d s.1, s.2)

end Server

namespace Prog

variable (S : Server σ κ ρ δ)

/-- Run a program; when no weather is left, it is fine. -/
def run : Prog κ ρ ε α → List (Weather δ) → σ → Outcome ε α × σ
  | pure a, _, s => (.returned a, s)
  | fail e, _, s => (.raised e, s)
  | call c k, ws, s =>
    let s := S.drifted s (ws.headD default).drifts
    match (ws.headD default).fate with
    | .served => run (k (S.reply c s)) ws.tail (S.effect c s)
    | .lostBefore => (.lost, s)
    | .lostAfter => (.lost, S.effect c s)

/-- The weakest precondition of a program for the postcondition `Q`, over all weathers whose
drifts satisfy `ok`. -/
def wp (ok : δ → Prop) : Prog κ ρ ε α → (Outcome ε α → σ → Prop) → σ → Prop
  | pure a, Q, s => Q (.returned a) s
  | fail e, Q, s => Q (.raised e) s
  | call c k, Q, s => ∀ ds : List δ, (∀ d ∈ ds, ok d) →
    Q .lost (S.drifted s ds) ∧ Q .lost (S.effect c (S.drifted s ds)) ∧
      (k (S.reply c (S.drifted s ds))).wp ok Q (S.effect c (S.drifted s ds))

variable {S} {ok : δ → Prop} {Q Q' : Outcome ε α → σ → Prop} {s : σ}

/-- **Sequences in fine weather.** -/
theorem run_bind_nil {p : Prog κ ρ ε α} {f : α → Prog κ ρ ε β} {a : α} {t : σ}
    (h : p.run S [] s = (.returned a, t)) : (p >>= f).run S [] s = (f a).run S [] t := by
  show (p.bind f).run S [] s = _
  induction p generalizing s with
  | pure b =>
    cases h
    rfl
  | fail e => cases h
  | call c k ih => exact ih _ h

/-- **Soundness.** A run under any weather ends in the postcondition. -/
theorem wp_sound {p : Prog κ ρ ε α} (h : p.wp S ok Q s) {ws : List (Weather δ)}
    (hws : ∀ w ∈ ws, ∀ d ∈ w.drifts, ok d) : Q (p.run S ws s).1 (p.run S ws s).2 := by
  induction p generalizing ws s with
  | pure a => exact h
  | fail e => exact h
  | call c k ih =>
    have hhead : ∀ d ∈ (ws.headD default).drifts, ok d := by
      cases ws with
      | nil => nofun
      | cons w ws => exact hws w (.head _)
    have htail : ∀ w ∈ ws.tail, ∀ d ∈ w.drifts, ok d :=
      fun w hw => hws w (List.mem_of_mem_tail hw)
    obtain ⟨hbefore, hafter, hserved⟩ := h _ hhead
    unfold run
    cases (ws.headD default).fate with
    | served => exact ih _ hserved htail
    | lostBefore => exact hbefore
    | lostAfter => exact hafter

theorem wp_mono {p : Prog κ ρ ε α} (h : p.wp S ok Q s) (himp : ∀ o s, Q o s → Q' o s) :
    p.wp S ok Q' s := by
  induction p generalizing s with
  | pure a => exact himp _ _ h
  | fail e => exact himp _ _ h
  | call c k ih =>
    intro ds hds
    obtain ⟨hbefore, hafter, hserved⟩ := h ds hds
    exact ⟨himp _ _ hbefore, himp _ _ hafter, ih _ hserved⟩

/-- What the rest of a sequence has to establish. -/
def andThen (S : Server σ κ ρ δ) (ok : δ → Prop) (f : α → Prog κ ρ ε β)
    (Q : Outcome ε β → σ → Prop) : Outcome ε α → σ → Prop
  | .returned a, s => (f a).wp S ok Q s
  | .raised e, s => Q (.raised e) s
  | .lost, s => Q .lost s

/-- **Sequences.** -/
theorem wp_bind {p : Prog κ ρ ε α} {f : α → Prog κ ρ ε β} {Q : Outcome ε β → σ → Prop} :
    (p >>= f).wp S ok Q s ↔ p.wp S ok (andThen S ok f Q) s := by
  show (p.bind f).wp S ok Q s ↔ _
  induction p generalizing s with
  | pure a => rfl
  | fail e => rfl
  | call c k ih => simp only [bind, wp, andThen, ih]

/-- What a handler has to establish. -/
def orElse (S : Server σ κ ρ δ) (ok : δ → Prop) (h : ε → Prog κ ρ ε α)
    (Q : Outcome ε α → σ → Prop) : Outcome ε α → σ → Prop
  | .returned a, s => Q (.returned a) s
  | .raised e, s => (h e).wp S ok Q s
  | .lost, s => Q .lost s

/-- **Handlers.** -/
theorem wp_handle {p : Prog κ ρ ε α} {h : ε → Prog κ ρ ε α} :
    (p.handle h).wp S ok Q s ↔ p.wp S ok (orElse S ok h Q) s := by
  induction p generalizing s with
  | pure a => rfl
  | fail e => rfl
  | call c k ih => simp only [handle, wp, orElse, ih]

/-! ### Triples -/

/-- What drift preserves. -/
def Stable (S : Server σ κ ρ δ) (ok : δ → Prop) (I : σ → Prop) : Prop :=
  ∀ d s, ok d → I s → I (S.drift d s)

theorem Stable.drifted {I : σ → Prop} (h : Stable S ok I) {ds : List δ} (hds : ∀ d ∈ ds, ok d)
    (hs : I s) : I (S.drifted s ds) := by
  induction ds generalizing s with
  | nil => exact hs
  | cons d ds ih =>
    rw [List.forall_mem_cons] at hds
    exact ih hds.2 (h d s hds.1 hs)

/-- A postcondition: `R` when the run returns, `E` when it raises and `I` when a call is lost. -/
def Ends (R : α → σ → Prop) (E : ε → σ → Prop) (I : σ → Prop) : Outcome ε α → σ → Prop
  | .returned a, s => R a s
  | .raised e, s => E e s
  | .lost, s => I s

/-- From every state with `P`, the program ends with `R`, with `E` or with `I`. -/
def Triple (S : Server σ κ ρ δ) (ok : δ → Prop) (P : σ → Prop) (p : Prog κ ρ ε α)
    (R : α → σ → Prop) (E : ε → σ → Prop) (I : σ → Prop) : Prop :=
  ∀ s, P s → p.wp S ok (Ends R E I) s

section Triple

variable {P P' : σ → Prop} {R R' : α → σ → Prop} {E E' : ε → σ → Prop} {I I' : σ → Prop}

theorem Triple.run {p : Prog κ ρ ε α} (h : Triple S ok P p R E I) (hs : P s)
    {ws : List (Weather δ)} (hws : ∀ w ∈ ws, ∀ d ∈ w.drifts, ok d) :
    Ends R E I (p.run S ws s).1 (p.run S ws s).2 :=
  wp_sound (h s hs) hws

theorem Triple.run_always {p : Prog κ ρ ε α} (h : Triple S ok P p (fun _ => I) (fun _ => I) I)
    (hs : P s) {ws : List (Weather δ)} (hws : ∀ w ∈ ws, ∀ d ∈ w.drifts, ok d) :
    I (p.run S ws s).2 := by
  have hend := h.run hs hws
  generalize (p.run S ws s).1 = o at hend
  cases o <;> exact hend

theorem Triple.mono {p : Prog κ ρ ε α} (h : Triple S ok P p R E I) (hP : ∀ s, P' s → P s)
    (hR : ∀ a s, R a s → R' a s) (hE : ∀ e s, E e s → E' e s) (hI : ∀ s, I s → I' s) :
    Triple S ok P' p R' E' I' := by
  intro s hs
  refine wp_mono (h s (hP s hs)) ?_
  rintro (a | e | _) t ht
  · exact hR a t ht
  · exact hE e t ht
  · exact hI t ht

theorem triple_pure {a : α} (h : ∀ s, P s → R a s) :
    Triple S ok P (Prog.pure a : Prog κ ρ ε α) R E I := h

theorem triple_fail {e : ε} (h : ∀ s, P s → E e s) :
    Triple S ok P (Prog.fail e : Prog κ ρ ε α) R E I := h

/-- **Calls.** The precondition survives the drift before the call. -/
theorem triple_invoke {c : κ} {R : ρ c → σ → Prop} (hP : Stable S ok P)
    (h : ∀ s, P s → I s ∧ I (S.effect c s) ∧ R (S.reply c s) (S.effect c s)) :
    Triple S ok P (invoke c : Prog κ ρ ε (ρ c)) R E I :=
  fun _ hs _ hds => h _ (hP.drifted hds hs)

theorem triple_lift {x : Except ε α} (hok : ∀ a s, x = .ok a → P s → R a s)
    (herror : ∀ e s, x = .error e → P s → E e s) :
    Triple S ok P (lift x : Prog κ ρ ε α) R E I := by
  intro s hs
  cases x with
  | ok a => exact hok a s rfl hs
  | error e => exact herror e s rfl hs

/-- **Sequences.** -/
theorem Triple.bind {β : Type} {p : Prog κ ρ ε α} {f : α → Prog κ ρ ε β} {T : β → σ → Prop}
    (hp : Triple S ok P p R E I) (hf : ∀ a, Triple S ok (R a) (f a) T E I) :
    Triple S ok P (p >>= f) T E I := by
  intro s hs
  refine wp_bind.2 (wp_mono (hp s hs) ?_)
  rintro (a | e | _) t ht
  · exact hf a t ht
  · exact ht
  · exact ht

/-- **Handlers.** -/
theorem Triple.handle {p : Prog κ ρ ε α} {h : ε → Prog κ ρ ε α}
    (hp : Triple S ok P p R E I) (hh : ∀ e, Triple S ok (E e) (h e) R E' I) :
    Triple S ok P (p.handle h) R E' I := by
  intro s hs
  refine wp_handle.2 (wp_mono (hp s hs) ?_)
  rintro (a | e | _) t ht
  · exact ht
  · exact hh e t ht
  · exact ht

/-- **Loops.** A loop keeps what every round keeps. -/
theorem triple_each {f : β → Prog κ ρ ε Unit} {xs : List β}
    (hround : ∀ x ∈ xs, Triple S ok P (f x) (fun _ => P) E I) :
    Triple S ok P (each f xs) (fun _ => P) E I := by
  induction xs with
  | nil => exact triple_pure fun _ hs => hs
  | cons x xs ih =>
    rw [List.forall_mem_cons] at hround
    exact hround.1.bind fun _ => ih hround.2

/-- **Loops with progress.** What holds after the items so far. -/
theorem triple_each_append {f : β → Prog κ ρ ε Unit} {xs : List β} {J : List β → σ → Prop}
    (hround : ∀ pre, ∀ x ∈ xs, Triple S ok (J pre) (f x) (fun _ => J (pre ++ [x])) E I) :
    Triple S ok (J []) (each f xs) (fun _ => J xs) E I := by
  have hrest (pre : List β) (ys : List β) (hys : ∀ y ∈ ys, y ∈ xs) :
      Triple S ok (J pre) (each f ys) (fun _ => J (pre ++ ys)) E I := by
    induction ys generalizing pre with
    | nil => exact triple_pure fun _ hs => by simpa using hs
    | cons y ys ih =>
      rw [List.forall_mem_cons] at hys
      refine (hround pre y hys.1).bind fun _ => ?_
      have := ih (pre ++ [y]) hys.2
      rwa [List.append_assoc] at this
  exact hrest [] xs fun _ hy => hy

end Triple

/-! ### Traces -/

section Traced

variable {J : σ → Prop} {P : σ → Prop}

/-- The state satisfies `P`, and it and every state since the start satisfy `J`. -/
def Along (J P : σ → Prop) (s : σ × List σ) : Prop := (P s.1 ∧ J s.1) ∧ ∀ t ∈ s.2, J t

theorem Along.effect {P' : σ → Prop} {c : κ} {s : σ × List σ} (h : Along J P s)
    (hc : P' (S.effect c s.1) ∧ J (S.effect c s.1)) : Along J P' (S.traced.effect c s) := by
  refine ⟨hc, fun t ht => ?_⟩
  rcases List.mem_append.1 ht with ht | ht
  · exact h.2 t ht
  · rw [List.mem_singleton.1 ht]
    exact hc.2

theorem stable_along (hP : Stable S ok P) (hJ : Stable S ok J) :
    Stable S.traced ok (Along J P) :=
  fun d s hd hs => ⟨⟨hP d s.1 hd hs.1.1, hJ d s.1 hd hs.1.2⟩, hs.2⟩

/-- **Calls, traced.** -/
theorem triple_invoke_along {c : κ} {R : ρ c → σ → Prop} {E : ε → σ × List σ → Prop}
    (hP : Stable S ok P) (hJ : Stable S ok J)
    (h : ∀ s, P s → J s → J (S.effect c s) ∧ R (S.reply c s) (S.effect c s)) :
    Triple S.traced ok (Along J P) (invoke c : Prog κ ρ ε (ρ c)) (fun r => Along J (R r)) E
      (Along J fun _ => True) := by
  refine triple_invoke (stable_along hP hJ) fun s hs => ?_
  obtain ⟨hafter, hreply⟩ := h s.1 hs.1.1 hs.1.2
  exact ⟨⟨⟨trivial, hs.1.2⟩, hs.2⟩, hs.effect ⟨trivial, hafter⟩, hs.effect ⟨hreply, hafter⟩⟩

end Traced

/-! ### The calls a program may make -/

/-- Every call the program may make satisfies `C`. -/
def Only (C : κ → Prop) : Prog κ ρ ε α → Prop
  | pure _ => True
  | fail _ => True
  | call c k => C c ∧ ∀ x, (k x).Only C

section Only

variable {C C' : κ → Prop}

theorem Only.mono {p : Prog κ ρ ε α} (h : p.Only C) (himp : ∀ c, C c → C' c) : p.Only C' := by
  induction p with
  | pure a => trivial
  | fail e => trivial
  | call c k ih => exact ⟨himp c h.1, fun x => ih x (h.2 x)⟩

theorem Only.bind {p : Prog κ ρ ε α} {f : α → Prog κ ρ ε β} (hp : p.Only C)
    (hf : ∀ a, (f a).Only C) : (p >>= f).Only C := by
  show (p.bind f).Only C
  induction p with
  | pure a => exact hf a
  | fail e => trivial
  | call c k ih => exact ⟨hp.1, fun x => ih x (hp.2 x)⟩

theorem Only.each {f : β → Prog κ ρ ε Unit} {xs : List β} (h : ∀ x ∈ xs, (f x).Only C) :
    (Prog.each f xs).Only C := by
  induction xs with
  | nil => trivial
  | cons x xs ih =>
    rw [List.forall_mem_cons] at h
    exact Only.bind h.1 fun _ => ih h.2

/-- The values that the program may return satisfy `R`. -/
def Returning (R : α → Prop) : Prog κ ρ ε α → Prop
  | pure a => R a
  | fail _ => True
  | call _ k => ∀ x, (k x).Returning R

theorem Returning.bind {R : α → Prop} {T : β → Prop} {p : Prog κ ρ ε α} {f : α → Prog κ ρ ε β}
    (hp : p.Returning R) (hf : ∀ a, R a → (f a).Returning T) : (p >>= f).Returning T := by
  show (p.bind f).Returning T
  induction p with
  | pure a => exact hf a hp
  | fail e => trivial
  | call c k ih => exact fun x => ih x (hp x)

theorem returning_true (p : Prog κ ρ ε α) : p.Returning fun _ => True := by
  induction p with
  | pure a => trivial
  | fail e => trivial
  | call c k ih => exact ih

theorem returning_lift {R : α → Prop} {x : Except ε α} (h : ∀ a, x = .ok a → R a) :
    (lift x : Prog κ ρ ε α).Returning R := by
  cases x with
  | ok a => exact h a rfl
  | error e => trivial

theorem Only.bind_returning {R : α → Prop} {p : Prog κ ρ ε α} {f : α → Prog κ ρ ε β}
    (hp : p.Only C) (hr : p.Returning R) (hf : ∀ a, R a → (f a).Only C) : (p >>= f).Only C := by
  show (p.bind f).Only C
  induction p with
  | pure a => exact hf a hr
  | fail e => trivial
  | call c k ih => exact ⟨hp.1, fun x => ih x (hp.2 x) (hr x)⟩

/-- Some replies let the program return `a`. -/
def CanReturn (a : α) : Prog κ ρ ε α → Prop
  | pure b => b = a
  | fail _ => False
  | call _ k => ∃ x, (k x).CanReturn a

theorem CanReturn.bind {p : Prog κ ρ ε α} {f : α → Prog κ ρ ε β} {a : α} {b : β}
    (hp : p.CanReturn a) (hf : (f a).CanReturn b) : (p >>= f).CanReturn b := by
  show (p.bind f).CanReturn b
  induction p with
  | pure a' => exact (show a' = a from hp) ▸ hf
  | fail e => exact hp.elim
  | call c k ih =>
    obtain ⟨x, hx⟩ := hp
    exact ⟨x, ih x hx⟩

theorem Only.left {p : Prog κ ρ ε α} {f : α → Prog κ ρ ε β} (h : (p >>= f).Only C) : p.Only C := by
  change (p.bind f).Only C at h
  induction p with
  | pure a => trivial
  | fail e => trivial
  | call c k ih => exact ⟨h.1, fun x => ih x (h.2 x)⟩

theorem Only.right {p : Prog κ ρ ε α} {f : α → Prog κ ρ ε β} {a : α} (h : (p >>= f).Only C)
    (hp : p.CanReturn a) : (f a).Only C := by
  change (p.bind f).Only C at h
  induction p with
  | pure a' => exact (show a' = a from hp) ▸ h
  | fail e => exact hp.elim
  | call c k ih =>
    obtain ⟨x, hx⟩ := hp
    exact ih x hx (h.2 x)

theorem only_lift (x : Except ε α) : (lift x : Prog κ ρ ε α).Only C := by cases x <;> trivial

theorem only_invoke {c : κ} (h : C c) : (invoke c : Prog κ ρ ε (ρ c)).Only C :=
  ⟨h, fun _ => trivial⟩

/-- **The invariant rule.** What drift and every call of the program preserve holds at the end,
however the run ends. -/
theorem Only.triple {I : σ → Prop} {p : Prog κ ρ ε α} (hp : p.Only C) (hdrift : Stable S ok I)
    (heffect : ∀ c s, C c → I s → I (S.effect c s)) :
    Triple S ok I p (fun _ => I) (fun _ => I) I := by
  intro s hs
  induction p generalizing s with
  | pure a => exact hs
  | fail e => exact hs
  | call c k ih =>
    intro ds hds
    have hbefore := hdrift.drifted hds hs
    have hafter := heffect c _ hp.1 hbefore
    exact ⟨hbefore, hafter, ih _ (hp.2 _) _ hafter⟩

end Only

/-! ### The exceptions a program may raise -/

/-- Every exception the program may raise satisfies `C`. -/
def Raising (C : ε → Prop) : Prog κ ρ ε α → Prop
  | pure _ => True
  | fail e => C e
  | call _ k => ∀ x, (k x).Raising C

section Raising

variable {C : ε → Prop} {P : σ → Prop} {R : α → σ → Prop} {E : ε → σ → Prop} {I : σ → Prop}

theorem Raising.bind {p : Prog κ ρ ε α} {f : α → Prog κ ρ ε β} (hp : p.Raising C)
    (hf : ∀ a, (f a).Raising C) : (p >>= f).Raising C := by
  show (p.bind f).Raising C
  induction p with
  | pure a => exact hf a
  | fail e => exact hp
  | call c k ih => exact fun x => ih x (hp x)

theorem raising_invoke (c : κ) : (invoke c : Prog κ ρ ε (ρ c)).Raising C := fun _ => trivial

theorem raising_lift {x : Except ε α} (h : ∀ e, x = .error e → C e) :
    (lift x : Prog κ ρ ε α).Raising C := by
  cases x with
  | ok a => trivial
  | error e => exact h e rfl

theorem wp_raising {p : Prog κ ρ ε α} (h : p.wp S ok (Ends R E I) s) (hp : p.Raising C) :
    p.wp S ok (Ends R (fun e s => E e s ∧ C e) I) s := by
  induction p generalizing s with
  | pure a => exact h
  | fail e => exact ⟨h, hp⟩
  | call c k ih =>
    intro ds hds
    obtain ⟨hbefore, hafter, hserved⟩ := h ds hds
    exact ⟨hbefore, hafter, ih _ hserved (hp _)⟩

theorem Triple.raising {p : Prog κ ρ ε α} (h : Triple S ok P p R E I) (hp : p.Raising C) :
    Triple S ok P p R (fun e s => E e s ∧ C e) I :=
  fun s hs => wp_raising (h s hs) hp

end Raising

end Prog

end ArchiDeal.Calls
