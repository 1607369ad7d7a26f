import ArchiDeal.Lib.Json
import ArchiDeal.Lib.Check

/-!
# Reading JSON

`json.loads`. A text is read from its front: every reader returns the value it has read and the
text that follows it. Arrays and objects nest at most `depth` deep, as the interpreter's stack
allows.

* `Reader`: what the caller and the interpreter choose, the hook for the members of an object and
  the conversion of float literals; `Reader.dict` and `Reader.unique` are the two in use;
* `loads`: the value of a text;
* `readable`: the values that a reader can return.

Two kinds of values exist in Python and not here. A number that overflows, `NaN` and `Infinity`
are refused with `ReadError.nonfinite`, and a lone surrogate with `ReadError.surrogate`.
-/

namespace ArchiDeal.Json

open Text

/-! ### Induction on values -/

/-- Induction on a value: the items of an array and the members of an object satisfy the
hypothesis. -/
@[elab_as_elim]
theorem values_induction {P : Json → Prop} (null : P .null) (bool : ∀ b, P (.bool b))
    (int : ∀ n, P (.int n)) (float : ∀ f, P (.float f)) (str : ∀ s, P (.str s))
    (arr : ∀ xs, (∀ x ∈ xs, P x) → P (.arr xs))
    (obj : ∀ kvs, (∀ p ∈ kvs, P p.2) → P (.obj kvs)) (v : Json) : P v :=
  @Json.rec P (fun xs => ∀ x ∈ xs, P x) (fun kvs => ∀ p ∈ kvs, P p.2) (fun p => P p.2)
    null bool int float str arr obj
    nofun (fun _ _ hx hxs => List.forall_mem_cons.2 ⟨hx, hxs⟩)
    nofun (fun _ _ hp hps => List.forall_mem_cons.2 ⟨hp, hps⟩) (fun _ _ hv => hv) v

/-! ### The reader -/

/-- Why a text is refused. -/
inductive ReadError
  | malformed
  | digits
  | nonfinite
  | surrogate
  | depth
  | hook
  deriving DecidableEq

/-- How the interpreter reads floats: `float` is `float(literal)`, with the value written as `repr`
writes it, and `none` for an infinity. -/
structure FloatReader where
  float : FloatLit → Option FloatLit
  /-- The literal that `repr` writes is read as the same float. -/
  float_repr : ∀ f g, float f = some g → float g = some g

/-- A reader: the floats of the interpreter, and the caller's `object_pairs_hook`. -/
structure Reader extends FloatReader where
  hook : List (String × Json) → Except ReadError (List (String × Json))
  /-- A hook keeps members whose keys are distinct. -/
  hook_nodup : ∀ kvs, (kvs.map Prod.fst).Nodup → hook kvs = .ok kvs
  /-- A hook returns members whose keys are distinct, all of them read. -/
  nodup_hook : ∀ kvs kvs', hook kvs = .ok kvs' → (kvs'.map Prod.fst).Nodup ∧ kvs' ⊆ kvs

/-- `float` of a literal, as its own text. -/
def FloatLit.ofText? (cs : List Char) : Option FloatLit :=
  if h : (Number.scan (String.ofList cs).toList).any
      (fun p => p.2.isEmpty && !(p.1.2.1.isEmpty && p.1.2.2.isEmpty)) = true then
    some ⟨String.ofList cs, h⟩
  else none

/-- The whitespace of JSON. -/
def blank (c : Char) : Bool := c == ' ' || c == '\t' || c == '\n' || c == '\r'

/-- The text after its leading whitespace. -/
def skip (cs : List Char) : List Char := cs.dropWhile blank

/-- The value of a hexadecimal digit of either case. -/
def hexValue (c : Char) : Option ℕ :=
  if digit c then some (c.toNat - 48)
  else if 'a' ≤ c && c ≤ 'f' then some (c.toNat - 87)
  else if 'A' ≤ c && c ≤ 'F' then some (c.toNat - 55)
  else none

/-- The four digits of a `\u` escape. -/
def readHex : List Char → Option (ℕ × List Char)
  | a :: b :: c :: d :: cs => do
    let a ← hexValue a
    let b ← hexValue b
    let c ← hexValue c
    let d ← hexValue d
    pure (((a * 16 + b) * 16 + c) * 16 + d, cs)
  | _ => none

/-- A character, from its code point. -/
def scalar (n : ℕ) (cs : List Char) : Except ReadError (Char × List Char) :=
  if h : n.isValidChar then .ok (.ofNatAux n h, cs) else .error .surrogate

/-- What follows a `\u`: a high surrogate joins the low one that follows it. -/
def readUnicode (cs : List Char) : Except ReadError (Char × List Char) :=
  match readHex cs with
  | none => .error .malformed
  | some (n, cs) =>
    if 0xd800 ≤ n ∧ n < 0xdc00 then
      match cs with
      | '\\' :: 'u' :: cs' =>
        match readHex cs' with
        | none => .error .malformed
        | some (m, cs') =>
          if 0xdc00 ≤ m ∧ m < 0xe000 then scalar (0x10000 + (n - 0xd800) * 0x400 + (m - 0xdc00)) cs'
          else .error .surrogate
      | _ => .error .surrogate
    else scalar n cs

/-- What follows a backslash. -/
def readEscape : List Char → Except ReadError (Char × List Char)
  | '"' :: cs => .ok ('"', cs)
  | '\\' :: cs => .ok ('\\', cs)
  | '/' :: cs => .ok ('/', cs)
  | 'b' :: cs => .ok ('\x08', cs)
  | 'f' :: cs => .ok ('\x0c', cs)
  | 'n' :: cs => .ok ('\n', cs)
  | 'r' :: cs => .ok ('\r', cs)
  | 't' :: cs => .ok ('\t', cs)
  | 'u' :: cs => readUnicode cs
  | _ => .error .malformed

/-- What follows the opening quote of a string, of at most `fuel` characters. -/
def readString : ℕ → List Char → Except ReadError (List Char × List Char)
  | 0, _ => .error .malformed
  | _ + 1, [] => .error .malformed
  | fuel + 1, c :: cs =>
    if c = '"' then .ok ([], cs)
    else if c = '\\' then do
      let (d, cs) ← readEscape cs
      let (ds, cs) ← readString fuel cs
      pure (d :: ds, cs)
    else if c.toNat < 32 then .error .malformed
    else do
      let (ds, cs) ← readString fuel cs
      pure (c :: ds, cs)

variable (r : Reader)

/-- A number, an integer unless it has a fraction or an exponent. -/
def readNumber (cs : List Char) : Except ReadError (Json × List Char) :=
  match Number.scan cs with
  | none => .error .malformed
  | some ((i, q, e), cs) =>
    if q.isEmpty && e.isEmpty then
      if (i.filter digit).length ≤ 4300 then .ok (.int (Number.intValue i), cs)
      else .error .digits
    else
      match FloatLit.ofText? (i ++ q ++ e) with
      | none => .error .malformed
      | some f =>
        match r.float f with
        | none => .error .nonfinite
        | some g => .ok (.float g, cs)

/-- The constants, and the numbers. -/
def readAtom : List Char → Except ReadError (Json × List Char)
  | 'n' :: 'u' :: 'l' :: 'l' :: cs => .ok (.null, cs)
  | 't' :: 'r' :: 'u' :: 'e' :: cs => .ok (.bool true, cs)
  | 'f' :: 'a' :: 'l' :: 's' :: 'e' :: cs => .ok (.bool false, cs)
  | 'N' :: 'a' :: 'N' :: _ => .error .nonfinite
  | 'I' :: 'n' :: 'f' :: 'i' :: 'n' :: 'i' :: 't' :: 'y' :: _ => .error .nonfinite
  | '-' :: 'I' :: 'n' :: 'f' :: 'i' :: 'n' :: 'i' :: 't' :: 'y' :: _ => .error .nonfinite
  | cs => readNumber r cs

/-- The items of a non-empty array, up to its closing bracket. -/
def readItems (value : List Char → Except ReadError (Json × List Char)) :
    ℕ → List Char → Except ReadError (List Json × List Char)
  | 0, _ => .error .malformed
  | fuel + 1, cs => do
    let (x, cs) ← value cs
    match skip cs with
    | ',' :: cs => do
      let (xs, cs) ← readItems value fuel (skip cs)
      pure (x :: xs, cs)
    | ']' :: cs => pure ([x], cs)
    | _ => .error .malformed

/-- The members of a non-empty object, up to its closing brace. -/
def readMembers (value : List Char → Except ReadError (Json × List Char)) :
    ℕ → List Char → Except ReadError (List (String × Json) × List Char)
  | 0, _ => .error .malformed
  | fuel + 1, '"' :: cs => do
    let (k, cs) ← readString cs.length cs
    match skip cs with
    | ':' :: cs => do
      let (x, cs) ← value (skip cs)
      match skip cs with
      | ',' :: cs => do
        let (xs, cs) ← readMembers value fuel (skip cs)
        pure ((String.ofList k, x) :: xs, cs)
      | '\x7d' :: cs => pure ([(String.ofList k, x)], cs)
      | _ => .error .malformed
    | _ => .error .malformed
  | _ + 1, _ => .error .malformed

/-- A value whose arrays and objects nest less than `depth` deep. -/
def readValue : ℕ → List Char → Except ReadError (Json × List Char)
  | 0, _ => .error .depth
  | depth + 1, '[' :: cs =>
    match skip cs with
    | ']' :: cs => .ok (.arr [], cs)
    | cs => do
      let (xs, cs) ← readItems (readValue depth) cs.length cs
      pure (.arr xs, cs)
  | depth + 1, '\x7b' :: cs =>
    match skip cs with
    | '\x7d' :: cs => .ok (.obj [], cs)
    | cs => do
      let (kvs, cs) ← readMembers (readValue depth) cs.length cs
      let kvs ← r.hook kvs
      pure (.obj kvs, cs)
  | _ + 1, '"' :: cs => do
    let (s, cs) ← readString cs.length cs
    pure (.str (String.ofList s), cs)
  | _ + 1, cs => readAtom r cs

/-- `json.loads(text)`. -/
def loads (depth : ℕ) (cs : List Char) : Except ReadError Json := do
  let (v, cs) ← readValue r depth (skip cs)
  ensure (skip cs).isEmpty .malformed
  pure v

/-! ### The two hooks -/

/-- `d[key] = value`: a key that is there keeps its place. -/
def setItem (d : List (String × Json)) (p : String × Json) : List (String × Json) :=
  if p.1 ∈ d.map Prod.fst then d.map fun q => if q.1 = p.1 then p else q else d ++ [p]

/-- `dict(pairs)`. -/
def dictOf (kvs : List (String × Json)) : List (String × Json) := kvs.foldl setItem []

theorem foldl_setItem_of_nodup {d kvs : List (String × Json)}
    (h : ((d ++ kvs).map Prod.fst).Nodup) : kvs.foldl setItem d = d ++ kvs := by
  induction kvs generalizing d with
  | nil => simp
  | cons p kvs ih =>
    have hfresh : p.1 ∉ d.map Prod.fst := by
      intro hmem
      rw [List.map_append, List.nodup_append] at h
      exact h.2.2 p.1 hmem p.1 (by simp) rfl
    rw [List.foldl_cons, setItem, if_neg hfresh, ih (by simpa using h), List.append_assoc]
    rfl

theorem nodup_setItem {d : List (String × Json)} (h : (d.map Prod.fst).Nodup) (p : String × Json) :
    ((setItem d p).map Prod.fst).Nodup := by
  unfold setItem
  split_ifs with hmem
  · have hkeys : (d.map fun q => if q.1 = p.1 then p else q).map Prod.fst = d.map Prod.fst := by
      rw [List.map_map, List.map_inj_left]
      intro q _
      simp only [Function.comp_apply]
      split_ifs with hq
      · exact hq.symm
      · rfl
    rw [hkeys]
    exact h
  · rw [List.map_append, List.nodup_append]
    refine ⟨h, by simp, ?_⟩
    rintro a ha b hb rfl
    simp only [List.map_cons, List.map_nil, List.mem_singleton] at hb
    exact hmem (hb ▸ ha)

theorem mem_setItem {d : List (String × Json)} {p q : String × Json} (h : q ∈ setItem d p) :
    q ∈ d ∨ q = p := by
  unfold setItem at h
  split_ifs at h
  · obtain ⟨x, hx, rfl⟩ := List.mem_map.1 h
    split_ifs
    · exact .inr rfl
    · exact .inl hx
  · simpa using h

theorem nodup_foldl_setItem (d kvs : List (String × Json)) (h : (d.map Prod.fst).Nodup) :
    ((kvs.foldl setItem d).map Prod.fst).Nodup ∧
      ∀ q ∈ kvs.foldl setItem d, q ∈ d ∨ q ∈ kvs := by
  induction kvs generalizing d with
  | nil => exact ⟨h, fun q hq => .inl hq⟩
  | cons p kvs ih =>
    obtain ⟨hnodup, hmem⟩ := ih _ (nodup_setItem h p)
    refine ⟨hnodup, fun q hq => ?_⟩
    rcases hmem q hq with hq | hq
    · rcases mem_setItem hq with hq | rfl
      · exact .inl hq
      · exact .inr (.head _)
    · exact .inr (.tail _ hq)

/-- `json.loads` without a hook. -/
def Reader.dict (f : FloatReader) : Reader where
  toFloatReader := f
  hook kvs := .ok (dictOf kvs)
  hook_nodup kvs h := by rw [dictOf, foldl_setItem_of_nodup (by simpa using h), List.nil_append]
  nodup_hook kvs kvs' h := by
    cases h
    obtain ⟨hnodup, hmem⟩ := nodup_foldl_setItem [] kvs List.nodup_nil
    exact ⟨hnodup, fun q hq => (hmem q hq).resolve_left nofun⟩

/-- `json.loads(…, object_pairs_hook=_unique_object)`: a repeated key is refused. -/
def Reader.unique (f : FloatReader) : Reader where
  toFloatReader := f
  hook kvs := if (kvs.map Prod.fst).Nodup then .ok kvs else .error .hook
  hook_nodup kvs h := if_pos h
  nodup_hook kvs kvs' h := by
    split_ifs at h with hnodup
    cases h
    exact ⟨hnodup, List.Subset.refl _⟩

/-! ### Readable values -/

section Readable

variable (r : FloatReader)

mutual

/-- The values that the reader returns. -/
def readable : Json → Bool
  | .null | .bool _ | .str _ => true
  | .int n => (Nat.toDigits 10 n.natAbs).length ≤ 4300
  | .float f => r.float f == some f
  | .arr xs => readableItems xs
  | .obj kvs => (kvs.map Prod.fst).Nodup && readableMembers kvs

def readableItems : List Json → Bool
  | [] => true
  | x :: xs => readable x && readableItems xs

def readableMembers : List (String × Json) → Bool
  | [] => true
  | (_, v) :: kvs => readable v && readableMembers kvs

end

end Readable

mutual

/-- How deep the arrays and objects of a value nest. -/
def nesting : Json → ℕ
  | .arr xs => nestingItems xs + 1
  | .obj kvs => nestingMembers kvs + 1
  | _ => 1

def nestingItems : List Json → ℕ
  | [] => 0
  | x :: xs => max (nesting x) (nestingItems xs)

def nestingMembers : List (String × Json) → ℕ
  | [] => 0
  | (_, v) :: kvs => max (nesting v) (nestingMembers kvs)

end

theorem readable_obj (r : FloatReader) (kvs : List (String × Json)) : readable r (.obj kvs) =
    (decide (kvs.map Prod.fst).Nodup && readableMembers r kvs) := by rw [readable]

theorem readableItems_iff {r : FloatReader} {xs : List Json} :
    readableItems r xs = true ↔ ∀ x ∈ xs, readable r x = true := by
  induction xs with
  | nil => simp [readableItems]
  | cons x xs ih => simp [readableItems, ih]

theorem readableMembers_iff {r : FloatReader} {kvs : List (String × Json)} :
    readableMembers r kvs = true ↔ ∀ p ∈ kvs, readable r p.2 = true := by
  induction kvs with
  | nil => simp [readableMembers]
  | cons p kvs ih => simp [readableMembers, ih]

theorem nestingItems_le {xs : List Json} {n : ℕ} :
    nestingItems xs ≤ n ↔ ∀ x ∈ xs, nesting x ≤ n := by
  induction xs with
  | nil => simp [nestingItems]
  | cons x xs ih => simp [nestingItems, ih]

theorem nestingMembers_le {kvs : List (String × Json)} {n : ℕ} :
    nestingMembers kvs ≤ n ↔ ∀ p ∈ kvs, nesting p.2 ≤ n := by
  induction kvs with
  | nil => simp [nestingMembers]
  | cons p kvs ih => simp [nestingMembers, ih]

end ArchiDeal.Json
