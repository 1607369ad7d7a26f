import ArchiDeal.Registry.Updates
import Mathlib.Data.List.SplitBy

/-!
# Secret-looking keys

`_reject_sensitive_keys` of `management_console/device_registry.py`, on keys that spell a sequence
of words. A word is written in lower case, with a capital or in upper case; the words are separated
by `_`, `-` or `.`, or joined as in camelCase and PascalCase.

* `spell`: the key that spells a sequence of words;
* `pieces`: the words that are left when words are glued together at the boundaries that
  `(?<=[a-z0-9])(?=[A-Z])` does not see;
* `keyComponents_joined`, `keyComponents_separated`: the components of a key that spells words;
* `rejectSensitiveKeys_iff`: an object is accepted if no key at any depth is refused;
* `secret_keys_in_every_style`: when a joined spelling of refused words is refused.
-/

namespace ArchiDeal.Registry

open Text

/-! ### Characters -/

theorem of_ascii {P : Char → Prop} (h : ∀ n : Fin 128, P (Char.ofNat n)) {c : Char}
    (hc : c.toNat < 128) : P c := by
  have hn := h ⟨c.toNat, hc⟩
  rwa [Char.ofNat_toNat] at hn

theorem ascii_of_lowerDigit {c : Char} (hc : lowerDigit c = true) : c.toNat < 128 := by
  simp only [lowerDigit, digit, Bool.or_eq_true, Bool.and_eq_true, decide_eq_true_eq] at hc
  rcases hc with ⟨-, h⟩ | ⟨-, h⟩
  · exact Nat.lt_of_le_of_lt (show c.toNat ≤ 122 from h) (by decide)
  · exact Nat.lt_of_le_of_lt (show c.toNat ≤ 57 from h) (by decide)

theorem case_of_lowerDigit {c : Char} (hc : lowerDigit c = true) :
    c.toLower = c ∧ c.toUpper.toLower = c ∧ upper c = false ∧ c.toUpper.toNat < 128 ∧
      lowerDigit c.toUpper = digit c ∧ upper c.toUpper = !digit c :=
  of_ascii (P := fun c => lowerDigit c = true → c.toLower = c ∧ c.toUpper.toLower = c ∧
    upper c = false ∧ c.toUpper.toNat < 128 ∧ lowerDigit c.toUpper = digit c ∧
      upper c.toUpper = !digit c) (by decide) (ascii_of_lowerDigit hc) hc

/-! ### Words and spellings -/

/-- A word: lower-case letters and digits. -/
structure Word where
  chars : List Char
  nonempty : chars ≠ []
  alnum : ∀ c ∈ chars, lowerDigit c = true

/-- How a word is written. -/
inductive Casing where
  | lower
  | capital
  | upper
  deriving DecidableEq

/-- A word as it is written in a key. -/
structure Spelled where
  casing : Casing
  word : Word

/-- The characters of a written word. -/
def Spelled.text (x : Spelled) : List Char :=
  match x.casing, x.word.chars with
  | .capital, c :: cs => c.toUpper :: cs
  | .upper, cs => cs.map Char.toUpper
  | _, cs => cs

/-- How the words of a key are put together. -/
inductive Style where
  | snake
  | kebab
  | dotted
  /-- camelCase and PascalCase, with or without acronyms. -/
  | joined
  deriving DecidableEq

/-- What stands between two words. -/
def Style.separator : Style → List Char
  | .snake => ['_']
  | .kebab => ['-']
  | .dotted => ['.']
  | .joined => []

/-- The key that spells the words. -/
def spell (style : Style) (ws : List Spelled) : String :=
  String.ofList (style.separator.intercalate (ws.map Spelled.text))

def snakeCase (words : List Word) : String := spell .snake (words.map fun w => ⟨.lower, w⟩)

/-! ### Boundaries -/

/-- `(?<=[a-z0-9])(?=[A-Z])` between two characters. -/
def opens (a b : Char) : Bool := lowerDigit a && upper b

/-- It stands between two texts. -/
def meets (u v : List Char) : Bool := u.getLast?.any lowerDigit && v.head?.any upper

/-- The boundary between two written words is seen. -/
def visible (x y : Spelled) : Bool := meets x.text y.text

/-- A word cut after each digit that a letter follows. -/
def Word.cut (w : Word) : List Word :=
  (w.chars.splitBy fun a b => !(digit a && !digit b)).attach.map fun p =>
    { chars := p.1
      nonempty := List.ne_nil_of_mem_splitBy p.2
      alnum := fun c hc => w.alnum c (by
        rw [← List.flatten_splitBy (fun a b => !(digit a && !digit b)) w.chars]
        exact List.mem_flatten_of_mem p.2 hc) }

/-- The parts of a written word: an acronym falls apart after its digits. -/
def Spelled.parts (x : Spelled) : List Spelled :=
  if x.casing = .upper then x.word.cut.map fun w => ⟨.upper, w⟩ else [x]

/-- The words that are left of joined words: the parts between the boundaries that are seen. -/
def pieces (ws : List Spelled) : List (List Char) :=
  ((ws.flatMap Spelled.parts).splitBy fun x y => !visible x y).map
    fun group => group.flatMap fun x => x.word.chars

/-! ### Written words -/

theorem ne_nil_text (x : Spelled) : x.text ≠ [] := by
  obtain ⟨casing, ⟨chars, hne, -⟩⟩ := x
  cases chars with
  | nil => exact absurd rfl hne
  | cons c cs => cases casing <;> simp [Spelled.text]

theorem lower_text (x : Spelled) : x.text.map Char.toLower = x.word.chars := by
  obtain ⟨casing, ⟨chars, hne, halnum⟩⟩ := x
  have hlower : ∀ cs : List Char, (∀ c ∈ cs, lowerDigit c = true) → cs.map Char.toLower = cs := by
    intro cs hcs
    exact (List.map_congr_left fun c hc => (case_of_lowerDigit (hcs c hc)).1).trans (List.map_id cs)
  cases chars with
  | nil => exact absurd rfl hne
  | cons c cs =>
    cases casing with
    | lower => exact hlower _ halnum
    | capital =>
      have hc := (case_of_lowerDigit (halnum c List.mem_cons_self)).2.1
      have hcs := hlower cs fun d hd => halnum d (List.mem_cons_of_mem _ hd)
      simp [Spelled.text, hc, hcs]
    | upper =>
      simp only [Spelled.text, List.map_map]
      refine (List.map_congr_left fun d hd => ?_).trans (List.map_id (c :: cs))
      exact (case_of_lowerDigit (halnum d hd)).2.1

theorem ascii_text (x : Spelled) : ∀ c ∈ x.text, c.toNat < 128 := by
  obtain ⟨casing, ⟨chars, hne, halnum⟩⟩ := x
  intro d hd
  cases chars with
  | nil => exact absurd rfl hne
  | cons c cs =>
    cases casing with
    | lower => exact ascii_of_lowerDigit (halnum d hd)
    | capital =>
      rcases List.mem_cons.1 hd with rfl | hd
      · exact (case_of_lowerDigit (halnum c List.mem_cons_self)).2.2.2.1
      · exact ascii_of_lowerDigit (halnum d (List.mem_cons_of_mem _ hd))
    | upper =>
      obtain ⟨e, he, rfl⟩ := List.mem_map.1 hd
      exact (case_of_lowerDigit (halnum e he)).2.2.2.1

theorem chars_cut (w : Word) :
    w.cut.map Word.chars = w.chars.splitBy fun a b => !(digit a && !digit b) := by
  rw [Word.cut, List.map_map]
  exact List.attach_map_subtype_val _

theorem flatMap_text_parts (x : Spelled) : x.parts.flatMap Spelled.text = x.text := by
  unfold Spelled.parts
  split_ifs with hupper
  · obtain ⟨casing, w⟩ := x
    cases hupper
    have htext (v : Word) : Spelled.text ⟨.upper, v⟩ = v.chars.map Char.toUpper := rfl
    simp only [List.flatMap_map, htext]
    rw [← List.flatten_splitBy (fun a b => !(digit a && !digit b)) w.chars, ← chars_cut,
      List.map_flatten, List.map_map, List.flatMap_def]
    rfl
  · exact List.flatMap_singleton _ _

/-! ### The first replacement -/

theorem snake_eq_self {cs : List Char} (h : cs.IsChain fun a b => opens a b = false) :
    snake cs = cs := by
  induction cs with
  | nil => rfl
  | cons a cs ih =>
    cases cs with
    | nil => rfl
    | cons b cs =>
      obtain ⟨hab, htail⟩ := List.isChain_cons_cons.1 h
      rw [snake, show (lowerDigit a && upper b) = false from hab, ih htail]
      rfl

/-- The replacement puts an underscore between two texts if it sees their boundary. -/
theorem snake_append {u v : List Char} (hu : u ≠ []) (hv : v ≠ []) :
    snake (u ++ v) = snake u ++ (if meets u v then '_' :: snake v else snake v) := by
  induction u with
  | nil => exact absurd rfl hu
  | cons a u ih =>
    cases u with
    | nil =>
      cases v with
      | nil => exact absurd rfl hv
      | cons b v =>
        simp only [List.singleton_append, snake, meets, List.getLast?_singleton, List.head?_cons,
          Option.any_some]
        split_ifs with h <;> simp [h]
    | cons b u =>
      have ih := ih (List.cons_ne_nil b u)
      have hlast : meets (a :: b :: u) v = meets (b :: u) v := by
        simp [meets, List.getLast?_cons_cons]
      simp only [List.cons_append, snake, hlast] at ih ⊢
      rw [ih]
      split_ifs <;> rfl

theorem isChain_text {x y : Spelled} (hy : y ∈ x.parts) :
    y.text.IsChain fun a b => opens a b = false := by
  unfold Spelled.parts at hy
  split_ifs at hy with hupper
  · -- an acronym has been cut where a letter follows a digit
    obtain ⟨v, hv, rfl⟩ := List.mem_map.1 hy
    have hmem : v.chars ∈ x.word.chars.splitBy fun a b => !(digit a && !digit b) := by
      rw [← chars_cut]
      exact List.mem_map_of_mem hv
    refine (List.isChain_map Char.toUpper).2 ((List.isChain_of_mem_splitBy hmem).imp_of_mem_imp ?_)
    intro a b ha hb hab
    obtain ⟨-, -, -, -, hlower, -⟩ := case_of_lowerDigit (v.alnum a ha)
    obtain ⟨-, -, -, -, -, hupper⟩ := case_of_lowerDigit (v.alnum b hb)
    rw [opens, hlower, hupper]
    exact Bool.not_eq_true' _ ▸ hab
  · -- otherwise only the first letter may be a capital
    cases List.mem_singleton.1 hy
    obtain ⟨casing, ⟨chars, hne, halnum⟩⟩ := x
    have hplain : ∀ cs : List Char, (∀ c ∈ cs, lowerDigit c = true) → ∀ a,
        (a :: cs).IsChain fun a b => opens a b = false := by
      intro cs hcs a
      refine (List.pairwise_cons.2 ⟨fun b hb => ?_, ?_⟩).isChain
      · rw [opens, (case_of_lowerDigit (hcs b hb)).2.2.1, Bool.and_false]
      · refine List.pairwise_of_forall_mem_list fun a _ b hb => ?_
        rw [opens, (case_of_lowerDigit (hcs b hb)).2.2.1, Bool.and_false]
    cases chars with
    | nil => exact absurd rfl hne
    | cons c cs =>
      have hcs : ∀ d ∈ cs, lowerDigit d = true := fun d hd => halnum d (List.mem_cons_of_mem _ hd)
      cases casing with
      | lower => exact hplain cs hcs c
      | capital => exact hplain cs hcs c.toUpper
      | upper => exact absurd rfl hupper

/-- The characters of words that are written next to each other. -/
def chunk (group : List Spelled) : List Char := group.flatMap Spelled.text

theorem chunk_cons (x : Spelled) (group : List Spelled) :
    chunk (x :: group) = x.text ++ chunk group := rfl

theorem head?_chunk_cons (x : Spelled) (group : List Spelled) :
    (chunk (x :: group)).head? = x.text.head? := by
  rw [chunk_cons, List.head?_append_of_ne_nil _ (ne_nil_text x)]

theorem getLast?_chunk {group : List Spelled} (h : group ≠ []) :
    (chunk group).getLast? = (group.getLast h).text.getLast? := by
  conv_lhs => rw [← List.dropLast_append_getLast h]
  rw [chunk, List.flatMap_append, List.flatMap_singleton,
    List.getLast?_append_of_ne_nil _ (ne_nil_text _)]

theorem ne_nil_chunk {group : List Spelled} (h : group ≠ []) : chunk group ≠ [] := by
  cases group with
  | nil => exact absurd rfl h
  | cons x group => exact List.append_ne_nil_of_left_ne_nil (ne_nil_text x) _

theorem snake_chunk {group : List Spelled}
    (htext : ∀ x ∈ group, x.text.IsChain fun a b => opens a b = false)
    (hgroup : group.IsChain fun x y => (!visible x y) = true) :
    snake (chunk group) = chunk group := by
  induction group with
  | nil => rfl
  | cons x group ih =>
    have hx := snake_eq_self (htext x List.mem_cons_self)
    cases group with
    | nil => rw [chunk_cons, chunk, List.flatMap_nil, List.append_nil, hx]
    | cons y group =>
      obtain ⟨hxy, hrest⟩ := List.isChain_cons_cons.1 hgroup
      have hmeets : meets x.text (chunk (y :: group)) = false := by
        rw [meets, head?_chunk_cons]
        exact Bool.not_eq_true' _ ▸ hxy
      rw [chunk_cons, snake_append (ne_nil_text x) (ne_nil_chunk (List.cons_ne_nil y group)),
        hmeets, hx, ih (fun z hz => htext z (List.mem_cons_of_mem _ hz)) hrest]
      rfl

theorem snake_groups {groups : List (List Spelled)} (hne : ∀ g ∈ groups, g ≠ [])
    (hsnake : ∀ g ∈ groups, snake (chunk g) = chunk g)
    (hseen : groups.IsChain fun g g' => ∃ h h', (!visible (g.getLast h) (g'.head h')) = false) :
    snake (groups.flatMap chunk) = ['_'].intercalate (groups.map chunk) := by
  induction groups with
  | nil => rfl
  | cons g groups ih =>
    have hg := hsnake g List.mem_cons_self
    cases groups with
    | nil => simp [hg]
    | cons g' groups =>
      obtain ⟨⟨h, h', hvisible⟩, hrest⟩ := List.isChain_cons_cons.1 hseen
      have ih := ih (fun k hk => hne k (List.mem_cons_of_mem _ hk))
        (fun k hk => hsnake k (List.mem_cons_of_mem _ hk)) hrest
      have hmeets : meets (chunk g) ((g' :: groups).flatMap chunk) = true := by
        rw [meets, getLast?_chunk h, List.flatMap_cons,
          List.head?_append_of_ne_nil _ (ne_nil_chunk h')]
        obtain ⟨y, g', rfl⟩ := List.exists_cons_of_ne_nil h'
        rw [head?_chunk_cons]
        simpa [visible, meets] using hvisible
      have hrest_ne : (g' :: groups).flatMap chunk ≠ [] := by
        rw [List.flatMap_cons]
        exact List.append_ne_nil_of_left_ne_nil (ne_nil_chunk h') _
      rw [List.flatMap_cons, snake_append (ne_nil_chunk h) hrest_ne, hmeets, if_pos rfl, hg, ih]
      simp [List.intercalate]

/-! ### Components -/

/-- The runs of `[a-z0-9]` of a text. -/
def runs (cs : List Char) : List (List Char) :=
  let (w, ws) := runsAux cs
  if w.isEmpty then ws else w :: ws

theorem runsAux_append {sep : Char} (hsep : lowerDigit sep = false) (u v : List Char) :
    runsAux (u ++ sep :: v) = ((runsAux u).1, (runsAux u).2 ++ runs v) := by
  induction u with
  | nil => simp [runsAux, hsep, runs]
  | cons c u ih =>
    simp only [List.cons_append, runsAux, ih]
    split_ifs <;> simp

theorem runs_append {sep : Char} (hsep : lowerDigit sep = false) (u v : List Char) :
    runs (u ++ sep :: v) = runs u ++ runs v := by
  simp only [runs, runsAux_append hsep]
  split_ifs <;> simp

theorem runs_intercalate {sep : Char} (hsep : lowerDigit sep = false) (us : List (List Char)) :
    runs ([sep].intercalate us) = us.flatMap runs := by
  induction us with
  | nil => rfl
  | cons u us ih =>
    cases us with
    | nil => simp [List.intercalate]
    | cons v us =>
      have hcons : [sep].intercalate (u :: v :: us) = u ++ sep :: [sep].intercalate (v :: us) := by
        simp [List.intercalate]
      rw [hcons, runs_append hsep, ih]
      rfl

theorem runsAux_word {w : List Char} (h : ∀ c ∈ w, lowerDigit c = true) : runsAux w = (w, []) := by
  induction w with
  | nil => rfl
  | cons c w ih =>
    simp [runsAux, ih fun d hd => h d (List.mem_cons_of_mem _ hd), h c List.mem_cons_self]

theorem runs_word {w : List Char} (hne : w ≠ []) (h : ∀ c ∈ w, lowerDigit c = true) :
    runs w = [w] := by
  simp [runs, runsAux_word h, hne]

theorem nil_intercalate {α : Type} (us : List (List α)) : [].intercalate us = us.flatten := by
  induction us with
  | nil => rfl
  | cons u us ih =>
    cases us with
    | nil => simp
    | cons v us => rw [List.intercalate_cons_cons, List.append_nil, ih]; rfl

theorem flatMap_intercalate {f : Char → List Char} {sep : Char} (h : f sep = [sep])
    (us : List (List Char)) :
    ([sep].intercalate us).flatMap f = [sep].intercalate (us.map (·.flatMap f)) := by
  induction us with
  | nil => rfl
  | cons u us ih =>
    cases us with
    | nil => simp
    | cons v us =>
      rw [List.intercalate_cons_cons, List.flatMap_append, List.flatMap_append, ih,
        List.flatMap_singleton, h]
      simp [List.intercalate_cons_cons]

theorem snake_append_sep {sep : Char} (hlower : lowerDigit sep = false) (hupper : upper sep = false)
    (u v : List Char) : snake (u ++ sep :: v) = snake u ++ sep :: snake v := by
  have hsep : snake (sep :: v) = sep :: snake v := by
    cases v with
    | nil => rfl
    | cons b v => simp [snake, hlower]
  induction u with
  | nil => exact hsep
  | cons a u ih =>
    cases u with
    | nil => simp [snake, hupper, hsep]
    | cons b u =>
      simp only [List.cons_append, snake] at ih ⊢
      rw [ih]
      split_ifs <;> rfl

theorem snake_intercalate {sep : Char} (hlower : lowerDigit sep = false)
    (hupper : upper sep = false) (us : List (List Char)) :
    snake ([sep].intercalate us) = [sep].intercalate (us.map snake) := by
  induction us with
  | nil => rfl
  | cons u us ih =>
    cases us with
    | nil => simp
    | cons v us =>
      rw [List.intercalate_cons_cons, List.append_assoc, List.singleton_append,
        snake_append_sep hlower hupper, ih]
      simp [List.intercalate_cons_cons]

section Casefold

variable {casefold : Char → List Char}

/-- `key_components` of a text, as lists of characters. -/
def componentsOf (casefold : Char → List Char) (text : List Char) : List (List Char) :=
  runs ((snake text).flatMap casefold)

theorem keyComponents_ofList (text : List Char) :
    keyComponents casefold (String.ofList text) =
      (componentsOf casefold text).map String.ofList := by
  rw [keyComponents, String.toList_ofList]
  rfl

/-- `str.casefold` of ASCII characters. -/
def FoldsAscii (casefold : Char → List Char) : Prop :=
  ∀ c : Char, c.toNat < 128 → casefold c = [c.toLower]

theorem fold_chunk (h : FoldsAscii casefold) (group : List Spelled) :
    (chunk group).flatMap casefold = group.flatMap fun x => x.word.chars := by
  rw [chunk, List.flatMap_assoc]
  refine List.flatMap_congr fun x _ => ?_
  rw [← lower_text x, ← List.flatMap_pure_eq_map]
  exact List.flatMap_congr fun c hc => h c (ascii_text x c hc)

/-- **The components of joined words** are the pieces between the boundaries that are seen. -/
theorem componentsOf_joined (h : FoldsAscii casefold) (ws : List Spelled) :
    componentsOf casefold (chunk ws) = pieces ws := by
  let groups := (ws.flatMap Spelled.parts).splitBy fun x y => !visible x y
  have hflatten : groups.flatten = ws.flatMap Spelled.parts := List.flatten_splitBy _ _
  have htext : chunk ws = groups.flatMap chunk := by
    rw [chunk, ← List.flatMap_congr fun x _ => flatMap_text_parts x, ← List.flatMap_assoc,
      ← hflatten, ← List.flatMap_id, List.flatMap_assoc]
    rfl
  have hne : ∀ g ∈ groups, g ≠ [] := fun g hg => List.ne_nil_of_mem_splitBy hg
  have hsnake : ∀ g ∈ groups, snake (chunk g) = chunk g := by
    intro g hg
    refine snake_chunk (fun x hx => ?_) (List.isChain_of_mem_splitBy hg)
    obtain ⟨w, -, hx⟩ := List.mem_flatMap.1 (hflatten ▸ List.mem_flatten_of_mem hg hx)
    exact isChain_text hx
  have hchars (g : List Spelled) : ∀ c ∈ g.flatMap (fun x => x.word.chars), lowerDigit c =
    true := by
    intro c hc
    obtain ⟨x, -, hc⟩ := List.mem_flatMap.1 hc
    exact x.word.alnum c hc
  have hne' : ∀ g ∈ groups, g.flatMap (fun x => x.word.chars) ≠ [] := by
    intro g hg
    obtain ⟨x, g', rfl⟩ := List.exists_cons_of_ne_nil (hne g hg)
    exact List.append_ne_nil_of_left_ne_nil x.word.nonempty _
  have hseen : groups.IsChain fun g g' =>
      ∃ h h', (!visible (g.getLast h) (g'.head h')) = false :=
    List.isChain_getLast_head_splitBy (fun x y => !visible x y) _
  have hunderscore : casefold '_' = ['_'] := h '_' (by decide)
  rw [componentsOf, htext, snake_groups hne hsnake hseen,
    flatMap_intercalate hunderscore, runs_intercalate (by decide), List.map_map, List.flatMap_map,
    pieces, ← List.flatMap_pure_eq_map]
  refine List.flatMap_congr fun g hg => ?_
  rw [Function.comp_apply, fold_chunk h, runs_word (hne' g hg) (hchars g)]
  rfl

/-- **The components of separated words** are those of each word. -/
theorem componentsOf_separated (h : FoldsAscii casefold) {sep : Char}
    (hsep : sep = '_' ∨ sep = '-' ∨ sep = '.') (ws : List Spelled) :
    componentsOf casefold ([sep].intercalate (ws.map Spelled.text)) =
      ws.flatMap fun x => pieces [x] := by
  obtain ⟨hlower, hupper, hfold⟩ : lowerDigit sep = false ∧ upper sep = false ∧
      casefold sep = [sep] := by
    rcases hsep with rfl | rfl | rfl
    · exact ⟨by decide, by decide, h '_' (by decide)⟩
    · exact ⟨by decide, by decide, h '-' (by decide)⟩
    · exact ⟨by decide, by decide, h '.' (by decide)⟩
  rw [componentsOf, snake_intercalate hlower hupper, flatMap_intercalate hfold,
    runs_intercalate hlower, List.map_map, List.map_map, List.flatMap_map]
  refine List.flatMap_congr fun x _ => ?_
  rw [← componentsOf_joined h [x], chunk, List.flatMap_singleton]
  rfl

/-! ### The denylist -/

theorem isSensitive_ofList (text : List Char) :
    isSensitive casefold (String.ofList text) = denied (componentsOf casefold text) := by
  have hchars : String.toList ∘ String.ofList = id := funext fun cs => String.toList_ofList
  rw [isSensitive, keyComponents_ofList, List.map_map, hchars, List.map_id]

theorem flatten_pieces (ws : List Spelled) :
    (pieces ws).flatten = ws.flatMap fun x => x.word.chars := by
  have hparts (x : Spelled) : x.parts.flatMap (fun y => y.word.chars) = x.word.chars := by
    rw [← lower_text x, ← flatMap_text_parts x, List.map_flatMap]
    exact List.flatMap_congr fun y _ => (lower_text y).symm
  calc (pieces ws).flatten
      = ((ws.flatMap Spelled.parts).splitBy fun x y => !visible x y).flatMap
          (fun group => group.flatMap fun x => x.word.chars) := List.flatMap_def.symm
    _ = ((ws.flatMap Spelled.parts).splitBy fun x y => !visible x y).flatten.flatMap
          (fun x => x.word.chars) := by rw [← List.flatMap_id, List.flatMap_assoc]; rfl
    _ = ws.flatMap (fun x => x.parts.flatMap fun y => y.word.chars) := by
        rw [List.flatten_splitBy, List.flatMap_assoc]
    _ = ws.flatMap (fun x => x.word.chars) := List.flatMap_congr fun x _ => hparts x

/-- A word that is not an acronym is one piece, and so is one without digits. -/
theorem pieces_singleton {x : Spelled}
    (h : x.casing ≠ .upper ∨ ∀ c ∈ x.word.chars, digit c = false) :
    pieces [x] = [x.word.chars] := by
  obtain ⟨y, hy, hchars⟩ : ∃ y, x.parts = [y] ∧ y.word.chars = x.word.chars := by
    unfold Spelled.parts
    split_ifs with hupper
    · have hletters := h.resolve_left (absurd hupper)
      have hcut : x.word.cut.map Word.chars = [x.word.chars] := by
        rw [chars_cut]
        refine List.splitBy_of_isChain x.word.nonempty
          (List.pairwise_of_forall_mem_list fun a ha b _ => ?_).isChain
        rw [hletters a ha]
        rfl
      obtain ⟨v, hv, hchars⟩ := List.map_eq_singleton_iff.1 hcut
      exact ⟨⟨.upper, v⟩, by rw [hv]; rfl, hchars⟩
    · exact ⟨x, rfl, rfl⟩
  have hparts : [x].flatMap Spelled.parts = [y] := by rw [List.flatMap_singleton, hy]
  rw [pieces, hparts, List.splitBy_of_isChain (List.cons_ne_nil y []) (List.isChain_singleton y),
    List.map_singleton, List.flatMap_singleton, hchars]

theorem letters_of_sensitive {w : List Char} (h : String.ofList w ∈ sensitiveKeyComponents ∨
    ∃ p ∈ sensitiveKeySequences, String.ofList w = p.1 ∨ String.ofList w = p.2) :
    ∀ c ∈ w, digit c = false := by
  have hcomponents : ∀ t ∈ sensitiveKeyComponents, t.toList.all (!digit ·) = true := by
    decide +kernel
  have hsequences : ∀ p ∈ sensitiveKeySequences,
      p.1.toList.all (!digit ·) = true ∧ p.2.toList.all (!digit ·) = true := by
    decide +kernel
  rcases h with h | ⟨p, hp, h | h⟩
  · simpa using hcomponents _ h
  · simpa [← h] using (hsequences p hp).1
  · simpa [← h] using (hsequences p hp).2

theorem mem_zip_tail {α : Type} {l : List α} {a b : α} :
    (a, b) ∈ l.zip l.tail ↔ ∃ u v, l = u ++ a :: b :: v := by
  induction l with
  | nil => simp
  | cons c l ih =>
    cases l with
    | nil =>
      simp only [List.tail_cons, List.zip_nil_right, List.not_mem_nil, false_iff, not_exists]
      intro u v huv
      have := congrArg List.length huv
      simp at this
      omega
    | cons d l =>
      simp only [List.tail_cons, List.zip_cons_cons, List.mem_cons, Prod.mk.injEq] at ih ⊢
      rw [ih]
      constructor
      · rintro (⟨rfl, rfl⟩ | ⟨u, v, huv⟩)
        · exact ⟨[], l, rfl⟩
        · exact ⟨c :: u, v, by rw [huv]; rfl⟩
      · rintro ⟨u, v, huv⟩
        cases u with
        | nil =>
          cases huv
          exact .inl ⟨rfl, rfl⟩
        | cons e u =>
          rw [List.cons_append, List.cons.injEq] at huv
          exact .inr ⟨u, v, huv.2⟩

theorem denied_iff {components : List (List Char)} : denied components = true ↔
    (∃ w ∈ components, String.ofList w ∈ sensitiveKeyComponents) ∨
    String.ofList components.flatten ∈ sensitiveCompactKeys ∨
    ∃ u v w w', components = u ++ w :: w' :: v ∧
      (String.ofList w, String.ofList w') ∈ sensitiveKeySequences := by
  have hcompact : "".intercalate (components.map String.ofList) =
      String.ofList components.flatten := by
    rw [← String.toList_inj, String.toList_intercalate, String.toList_ofList, List.map_map]
    simp [nil_intercalate, Function.comp_def]
  have hpairs : ((components.map String.ofList).zip (components.map String.ofList).tail).any
      (· ∈ sensitiveKeySequences) = true ↔ ∃ u v w w', components = u ++ w :: w' :: v ∧
        (String.ofList w, String.ofList w') ∈ sensitiveKeySequences := by
    rw [← List.map_tail, List.zip_map, List.any_map, List.any_eq_true]
    constructor
    · rintro ⟨⟨w, w'⟩, hmem, hpair⟩
      obtain ⟨u, v, huv⟩ := mem_zip_tail.1 hmem
      exact ⟨u, v, w, w', huv, by simpa using hpair⟩
    · rintro ⟨u, v, w, w', huv, hpair⟩
      exact ⟨(w, w'), mem_zip_tail.2 ⟨u, v, huv⟩, by simpa using hpair⟩
  simp only [denied, Bool.or_eq_true, hpairs, hcompact, decide_eq_true_eq, or_assoc]
  simp

/-- Separated words that are denied in lower case are denied in any case. -/
theorem denied_separated {ws : List Spelled}
    (h : denied (ws.map fun x => x.word.chars) = true) :
    denied (ws.flatMap fun x => pieces [x]) = true := by
  rw [denied_iff] at h ⊢
  rcases h with ⟨w, hw, hdenied⟩ | hcompact | ⟨u, v, w, w', huv, hdenied⟩
  · obtain ⟨x, hx, rfl⟩ := List.mem_map.1 hw
    refine .inl ⟨_, List.mem_flatMap.2 ⟨x, hx, ?_⟩, hdenied⟩
    rw [pieces_singleton (.inr (letters_of_sensitive (.inl hdenied)))]
    exact List.mem_singleton_self _
  · refine .inr (.inl ?_)
    rw [← List.flatMap_id, List.flatMap_assoc]
    have hflatten : ws.flatMap (fun x => (pieces [x]).flatMap id) =
        (ws.map fun x => x.word.chars).flatten := by
      rw [← List.flatMap_def]
      refine List.flatMap_congr fun x _ => ?_
      rw [List.flatMap_id, flatten_pieces, List.flatMap_singleton]
    rw [hflatten]
    exact hcompact
  · obtain ⟨xs, rest, rfl, rfl, hrest⟩ := List.map_eq_append_iff.1 huv
    obtain ⟨x, rest, rfl, rfl, hrest'⟩ := List.map_eq_cons_iff.1 hrest
    obtain ⟨y, ys, rfl, rfl, rfl⟩ := List.map_eq_cons_iff.1 hrest'
    refine .inr (.inr ⟨xs.flatMap fun x => pieces [x], ys.flatMap fun x => pieces [x], x.word.chars,
      y.word.chars, ?_, hdenied⟩)
    have hx : pieces [x] = [x.word.chars] :=
      pieces_singleton (.inr (letters_of_sensitive (.inr ⟨_, hdenied, .inl rfl⟩)))
    have hy : pieces [y] = [y.word.chars] :=
      pieces_singleton (.inr (letters_of_sensitive (.inr ⟨_, hdenied, .inr rfl⟩)))
    simp [hx, hy]

end Casefold

/-! ### Objects -/

mutual

/-- The keys of a value, at any depth. -/
def keysOf : Json → List String
  | .obj members => keysOfMembers members
  | .arr items => keysOfItems items
  | _ => []

def keysOfMembers : List (String × Json) → List String
  | [] => []
  | (key, nested) :: members => key :: (keysOf nested ++ keysOfMembers members)

def keysOfItems : List Json → List String
  | [] => []
  | nested :: items => keysOf nested ++ keysOfItems items

end

section Objects

variable {casefold : Char → List Char}

mutual

/-- **An object is accepted if and only if no key at any depth is refused.** -/
theorem rejectSensitiveKeys_iff (path : String) : ∀ value : Json,
    rejectSensitiveKeys casefold path value = .ok () ↔
      ∀ key ∈ keysOf value, isSensitive casefold key = false
  | .obj members => by
    rw [rejectSensitiveKeys, keysOf]
    exact rejectSensitiveMembers_iff path members
  | .arr items => by
    rw [rejectSensitiveKeys, keysOf]
    exact rejectSensitiveItems_iff path 0 items
  | .null | .bool _ | .int _ | .float _ | .str _ => by simp [rejectSensitiveKeys, keysOf]

theorem rejectSensitiveMembers_iff (path : String) : ∀ members : List (String × Json),
    rejectSensitiveMembers casefold path members = .ok () ↔
      ∀ key ∈ keysOfMembers members, isSensitive casefold key = false
  | [] => by simp [rejectSensitiveMembers, keysOfMembers]
  | (key, nested) :: members => by
    have hnested := rejectSensitiveKeys_iff s!"{path}.{key}" nested
    have hmembers := rejectSensitiveMembers_iff path members
    simp only [rejectSensitiveMembers, bind_eq_ok, ensure_eq_ok, keysOfMembers,
      List.forall_mem_cons, List.forall_mem_append, hnested, hmembers, Bool.not_eq_true']
    simp

theorem rejectSensitiveItems_iff (path : String) (index : ℕ) : ∀ items : List Json,
    rejectSensitiveItems casefold path index items = .ok () ↔
      ∀ key ∈ keysOfItems items, isSensitive casefold key = false
  | [] => by simp [rejectSensitiveItems, keysOfItems]
  | nested :: items => by
    have hnested := rejectSensitiveKeys_iff s!"{path}[{index}]" nested
    have hitems := rejectSensitiveItems_iff path (index + 1) items
    simp only [rejectSensitiveItems, bind_eq_ok, keysOfItems, List.forall_mem_append, hnested,
      hitems]
    simp

end

theorem keys_of_validateObject {name : String} {value : Json} {members : List (String × Json)}
    (h : validateObject casefold name value = .ok members) :
    ∀ key ∈ keysOf value, isSensitive casefold key = false := by
  cases value with
  | obj object =>
    obtain ⟨⟨⟩, hreject, -⟩ := bind_eq_ok.1 h
    exact (rejectSensitiveKeys_iff name _).1 hreject
  | _ => cases h

theorem keys_of_validateLabels {value : Json} {labels : List (String × Json)}
    (h : validateLabels casefold value = .ok labels) :
    ∀ key ∈ keysOf value, isSensitive casefold key = false := by
  obtain ⟨object, hobject, -⟩ := bind_eq_ok.1 h
  exact keys_of_validateObject hobject

/-- A payload is accepted only if no key of its settings and labels is refused. -/
theorem keys_of_validateFields {payload : Payload} {permitted : List String} {values : Values}
    (h : validateFields casefold payload permitted = .ok values) {field : Field}
    (hfield : field = .settings ∨ field = .labels) {value : Json}
    (hvalue : payload.lookup field.name = some value) :
    ∀ key ∈ keysOf value, isSensitive casefold key = false := by
  unfold validateFields at h
  obtain ⟨-, -, h⟩ := bind_eq_ok.1 h
  obtain ⟨displayName, -, h⟩ := bind_eq_ok.1 h
  obtain ⟨kind, -, h⟩ := bind_eq_ok.1 h
  obtain ⟨status, -, h⟩ := bind_eq_ok.1 h
  obtain ⟨mqttTopic, -, h⟩ := bind_eq_ok.1 h
  obtain ⟨capabilities, -, h⟩ := bind_eq_ok.1 h
  obtain ⟨settings, hsettings, h⟩ := bind_eq_ok.1 h
  obtain ⟨labels, hlabels, -⟩ := bind_eq_ok.1 h
  rcases hfield with rfl | rfl
  · rw [validated, hvalue] at hsettings
    obtain ⟨members, hmembers, -⟩ := map_eq_ok.1 hsettings
    exact keys_of_validateObject hmembers
  · rw [validated, hvalue] at hlabels
    obtain ⟨members, hmembers, -⟩ := map_eq_ok.1 hlabels
    exact keys_of_validateLabels hmembers

theorem isSensitive_snakeCase (h : FoldsAscii casefold) (words : List Word) :
    isSensitive casefold (snakeCase words) = denied (words.map Word.chars) := by
  rw [snakeCase, spell, isSensitive_ofList, Style.separator,
    componentsOf_separated h (.inl rfl) (words.map fun w => ⟨.lower, w⟩), List.flatMap_map]
  refine congrArg denied ?_
  rw [List.map_eq_flatMap]
  exact List.flatMap_congr fun w _ => pieces_singleton (.inl (by simp))

/-- **Which spellings of secret-looking words are refused.** Separated words are refused whenever
their lower-case snake_case spelling is; joined words are if and only if what is left of them, glued
together at every boundary that is not between a lower-case letter or a digit and an upper-case
letter, is still on the denylist. A payload is accepted only if no key of its settings and labels is
refused, at any depth. -/
theorem secret_keys_in_every_style (h : FoldsAscii casefold) :
    (∀ (style : Style) (ws : List Spelled),
      ((isSensitive casefold (snakeCase (ws.map Spelled.word)) = true →
        isSensitive casefold (spell style ws) = true) ↔
      (style = .joined → denied (ws.map fun x => x.word.chars) = true →
        denied (pieces ws) = true))) ∧
    ∀ (payload : Payload) (permitted : List String) (values : Values),
      validateFields casefold payload permitted = .ok values →
      ∀ field : Field, field = .settings ∨ field = .labels →
      ∀ value, payload.lookup field.name = some value →
      ∀ key ∈ keysOf value, isSensitive casefold key = false := by
  refine ⟨fun style ws => ?_, fun payload permitted values hvalues field hfield value hvalue =>
    keys_of_validateFields hvalues hfield hvalue⟩
  rw [isSensitive_snakeCase h, List.map_map, spell, isSensitive_ofList]
  have hseparated : ∀ sep, sep = '_' ∨ sep = '-' ∨ sep = '.' →
      denied (ws.map fun x => x.word.chars) = true →
      denied (componentsOf casefold ([sep].intercalate (ws.map Spelled.text))) = true := by
    intro sep hsep hdenied
    rw [componentsOf_separated h hsep]
    exact denied_separated hdenied
  cases style with
  | snake => exact ⟨fun _ => nofun, fun _ => hseparated '_' (.inl rfl)⟩
  | kebab => exact ⟨fun _ => nofun, fun _ => hseparated '-' (.inr (.inl rfl))⟩
  | dotted => exact ⟨fun _ => nofun, fun _ => hseparated '.' (.inr (.inr rfl))⟩
  | joined =>
    rw [Style.separator, nil_intercalate, ← List.flatMap_def, ← componentsOf_joined h ws]
    exact ⟨fun himp _ => himp, fun himp => himp rfl⟩

def apiToken : List Spelled :=
  [⟨.upper, "api".toList, by decide, List.all_eq_true.1 (by decide)⟩,
    ⟨.capital, "token".toList, by decide, List.all_eq_true.1 (by decide)⟩]

theorem apiToken_accepted :
    spell .joined apiToken = "APIToken" ∧ snakeCase (apiToken.map Spelled.word) = "api_token" ∧
    isSensitive (fun c => [c.toLower]) "api_token" = true ∧
    isSensitive (fun c => [c.toLower]) "APIToken" = false ∧
    (validateCreatePayload (fun c => [c.toLower]) [("device_id", .str "field-01"),
      ("display_name", .str "Field device"), ("kind", .str "sensor"),
      ("settings", .obj [("APIToken", .str "t0p-s3cret")])]).isOk = true := by
  decide +kernel

theorem secret_keys_in_every_style_camelCase :
    isSensitive (fun c => [c.toLower]) (spell .joined
      [⟨.lower, "api".toList, by decide, List.all_eq_true.1 (by decide)⟩,
       ⟨.capital, "token".toList, by decide, List.all_eq_true.1 (by decide)⟩]) = true := by
  have hfold : FoldsAscii fun c => [c.toLower] := fun _ _ => rfl
  refine ((secret_keys_in_every_style hfold).1 .joined _).2 (fun _ _ => ?_) ?_
  · decide +kernel
  · decide +kernel

end Objects

end ArchiDeal.Registry
