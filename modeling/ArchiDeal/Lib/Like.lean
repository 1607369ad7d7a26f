import Mathlib.Data.List.Infix

/-!
# `LIKE` patterns

The patterns of SQL's `LIKE … ESCAPE '\'`: `%` is any run of characters, `_` one character, and a
backslash quotes the character after it. `ILIKE` folds the case of the text and of the pattern
before it compares them.

* `tokens`: a pattern without its escapes; a pattern that ends in a lone backslash is none;
* `like`, `ilike`: the two operators, `none` for an invalid pattern;
* `escape`: the quoting of the special characters;
* `like_escape`: an escaped text between two `%` is searched for literally;
* `ilike_escape`: so it is up to case, by `ILIKE`.
-/

namespace ArchiDeal.Like

/-! ### Patterns -/

/-- A part of a pattern. -/
inductive Token where
  /-- `%` -/
  | run
  /-- `_` -/
  | one
  | char (c : Char)
  deriving DecidableEq

/-- A character of a pattern that no backslash quotes. -/
def token (c : Char) : Token := if c = '%' then .run else if c = '_' then .one else .char c

/-- The parts of a pattern. -/
def tokens : List Char → Option (List Token)
  | [] => some []
  | ['\\'] => none
  | '\\' :: c :: cs => (tokens cs).map (.char c :: ·)
  | c :: cs => (tokens cs).map (token c :: ·)

/-- Does the whole text have the parts of the pattern? -/
def matchTokens : List Token → List Char → Bool
  | [] => List.isEmpty
  | .run :: ts => fun s => s.tails.any (matchTokens ts)
  | .one :: ts => fun s => match s with
    | [] => false
    | _ :: cs => matchTokens ts cs
  | .char c :: ts => fun s => match s with
    | [] => false
    | d :: cs => d == c && matchTokens ts cs

/-- `text LIKE pattern ESCAPE '\'`. -/
def like (text pattern : List Char) : Option Bool :=
  (tokens pattern).map fun ts => matchTokens ts text

/-- `text ILIKE pattern ESCAPE '\'`. -/
def ilike (fold : Char → List Char) (text pattern : List Char) : Option Bool :=
  like (text.flatMap fold) (pattern.flatMap fold)

/-! ### Escapes -/

/-- The characters with a meaning in a pattern. -/
def special (c : Char) : Bool := c == '\\' || c == '%' || c == '_'

/-- A backslash before each special character. -/
def escape (s : List Char) : List Char := s.flatMap fun c => if special c then ['\\', c] else [c]

theorem tokens_cons {c : Char} (hc : c ≠ '\\') (cs : List Char) :
    tokens (c :: cs) = (tokens cs).map (token c :: ·) := by
  rw [tokens.eq_4]
  · exact fun h => absurd h hc
  · exact fun _ _ h => absurd h hc

theorem tokens_escape_append (s rest : List Char) :
    tokens (escape s ++ rest) = (tokens rest).map (s.map .char ++ ·) := by
  induction s with
  | nil => simp [escape]
  | cons c s ih =>
    simp only [escape, List.flatMap_cons, List.append_assoc] at ih ⊢
    by_cases hc : special c = true
    · rw [if_pos hc]
      simp only [List.cons_append, List.nil_append, tokens, ih, Option.map_map]
      rfl
    · rw [if_neg hc, List.singleton_append]
      simp only [special, Bool.or_eq_true, beq_iff_eq, not_or] at hc
      rw [tokens_cons hc.1.1, ih, token, if_neg hc.1.2, if_neg hc.2, Option.map_map]
      rfl

theorem matchTokens_chars (t : List Char) (ts : List Token) (s : List Char) :
    matchTokens (t.map .char ++ ts) s = true ↔ ∃ rest, s = t ++ rest ∧ matchTokens ts rest =
      true := by
  induction t generalizing s with
  | nil => simp
  | cons c t ih =>
    cases s with
    | nil => simp [matchTokens]
    | cons d s =>
      simp only [List.map_cons, List.cons_append, matchTokens, Bool.and_eq_true, beq_iff_eq, ih,
        List.cons.injEq]
      constructor
      · rintro ⟨rfl, rest, rfl, hrest⟩
        exact ⟨rest, ⟨rfl, rfl⟩, hrest⟩
      · rintro ⟨rest, ⟨rfl, rfl⟩, hrest⟩
        exact ⟨rfl, rest, rfl, hrest⟩

theorem matchTokens_run (ts : List Token) (s : List Char) :
    matchTokens (.run :: ts) s = true ↔ ∃ rest, rest <:+ s ∧ matchTokens ts rest = true := by
  simp [matchTokens, List.any_eq_true]

/-- **An escaped text between two `%` is searched for literally.** -/
theorem like_escape (text t : List Char) :
    like text ('%' :: escape t ++ ['%']) = some (decide (t <:+: text)) := by
  have htokens : tokens ('%' :: escape t ++ ['%']) = some (.run :: t.map .char ++ [.run]) := by
    rw [List.cons_append, tokens_cons (by decide), tokens_escape_append]
    rfl
  have hall (rest : List Char) : matchTokens [.run] rest = true :=
    (matchTokens_run [] rest).2 ⟨[], List.nil_suffix, rfl⟩
  rw [like, htokens, Option.map_some, Option.some.injEq, Bool.eq_iff_iff, decide_eq_true_eq,
    List.cons_append, matchTokens_run]
  constructor
  · rintro ⟨found, ⟨before, rfl⟩, hfound⟩
    obtain ⟨after, rfl, -⟩ := (matchTokens_chars t [.run] found).1 hfound
    exact ⟨before, after, by rw [List.append_assoc]⟩
  · rintro ⟨before, after, rfl⟩
    refine ⟨t ++ after, ⟨before, by rw [List.append_assoc]⟩, ?_⟩
    exact (matchTokens_chars t [.run] _).2 ⟨after, rfl, hall after⟩

/-! ### Case folding -/

/-- A case folding leaves the special characters alone and makes none. -/
structure Neutral (fold : Char → List Char) : Prop where
  keeps : ∀ c, special c = true → fold c = [c]
  makes : ∀ c, special c = false → ∀ d ∈ fold c, special d = false

theorem escape_append (s t : List Char) : escape (s ++ t) = escape s ++ escape t :=
  List.flatMap_append

theorem escape_of_plain {s : List Char} (h : ∀ c ∈ s, special c = false) : escape s = s := by
  induction s with
  | nil => rfl
  | cons c s ih =>
    have hc : escape [c] = [c] := by simp [escape, h c List.mem_cons_self]
    rw [← List.singleton_append, escape_append, hc, ih fun d hd => h d (List.mem_cons_of_mem _ hd)]

theorem fold_escape {fold : Char → List Char} (h : Neutral fold) (t : List Char) :
    (escape t).flatMap fold = escape (t.flatMap fold) := by
  induction t with
  | nil => rfl
  | cons c t ih =>
    have hc : (escape [c]).flatMap fold = escape (fold c) := by
      cases hspecial : special c with
      | true => simp [escape, hspecial, h.keeps c hspecial, h.keeps '\\' rfl]
      | false =>
        rw [escape_of_plain (h.makes c hspecial)]
        simp [escape, hspecial]
    rw [← List.singleton_append, escape_append, List.flatMap_append, hc, ih, List.flatMap_append,
      escape_append, List.flatMap_singleton]

/-- **`ILIKE` searches an escaped text literally, up to case.** -/
theorem ilike_escape {fold : Char → List Char} (h : Neutral fold) (text t : List Char) :
    ilike fold text ('%' :: escape t ++ ['%']) =
      some (decide (t.flatMap fold <:+: text.flatMap fold)) := by
  have hpercent : fold '%' = ['%'] := h.keeps '%' rfl
  rw [ilike, List.cons_append, List.flatMap_cons, List.flatMap_append, fold_escape h, hpercent,
    List.flatMap_singleton, hpercent, List.singleton_append]
  exact like_escape _ _

end ArchiDeal.Like
