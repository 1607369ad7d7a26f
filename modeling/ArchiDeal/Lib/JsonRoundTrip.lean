import ArchiDeal.Lib.JsonReader
import Mathlib.Data.List.TakeWhile

/-!
# JSON round trips

* `loads_dumps`: a readable value is read back from the text that `dumps` writes;
* `readable_of_loads`: what is read is readable.

A scanner takes exactly what the writer wrote because the writer puts a character after it that
does not continue it: `ends` says so for numbers, and `opens` for the first character of a value.
-/

namespace ArchiDeal.Json

open Text

variable (r : Reader)

/-! ### Numbers are read back -/

/-- A text before which a number ends. -/
def ends (cs : List Char) : Bool :=
  cs.head?.all fun c => !(digit c || c == '.' || c == 'e' || c == 'E' || c == '+' || c == '-')

section Numbers

variable {cs t rest : List Char}

theorem ne_of_ends {c : Char} (h : ends (c :: rest)) :
    digit c = false ∧ c ≠ '.' ∧ c ≠ 'e' ∧ c ≠ 'E' ∧ c ≠ '+' ∧ c ≠ '-' := by
  simpa [ends, and_assoc] using h

theorem takeWhile_append_of_ends (cs : List Char) (h : ends rest) :
    (cs ++ rest).takeWhile digit = cs.takeWhile digit ∧
      (cs ++ rest).dropWhile digit = cs.dropWhile digit ++ rest := by
  induction cs with
  | nil =>
    cases rest with
    | nil => exact ⟨rfl, rfl⟩
    | cons c rest =>
      have hc : digit c = false := (ne_of_ends h).1
      simp [hc]
  | cons c cs ih =>
    cases hc : digit c
    · simp [hc]
    · simp [hc, ih]

theorem scanNat_append (h : ends rest) {i : List Char} (hs : Number.scanNat cs = some (i, t)) :
    Number.scanNat (cs ++ rest) = some (i, t ++ rest) := by
  cases cs with
  | nil => cases hs
  | cons c cs =>
    simp only [Number.scanNat, List.cons_append] at hs ⊢
    obtain ⟨htake, hdrop⟩ := takeWhile_append_of_ends cs h
    split_ifs at hs ⊢
    · cases hs
      rfl
    · cases hs
      rw [htake, hdrop]

theorem scanInt_of_ne {c : Char} (hc : c ≠ '-') :
    Number.scanInt (c :: cs) = Number.scanNat (c :: cs) := by
  unfold Number.scanInt
  split
  · rename_i heq
    cases heq
    exact absurd rfl hc
  · rfl

theorem scanInt_append (h : ends rest) {i : List Char} (hs : Number.scanInt cs = some (i, t)) :
    Number.scanInt (cs ++ rest) = some (i, t ++ rest) := by
  cases cs with
  | nil => cases hs
  | cons c cs =>
    by_cases hc : c = '-'
    · subst hc
      obtain ⟨⟨j, u⟩, hnat, heq⟩ := Option.map_eq_some_iff.1 hs
      cases heq
      simp [Number.scanInt, scanNat_append h hnat]
    · rw [scanInt_of_ne hc] at hs
      rw [List.cons_append, scanInt_of_ne hc, ← List.cons_append, scanNat_append h hs]

theorem scanFraction_of_ne {c : Char} (hc : c ≠ '.') :
    Number.scanFraction (c :: cs) = ([], c :: cs) := by
  unfold Number.scanFraction
  split
  · rename_i heq
    cases heq
    exact absurd rfl hc
  · rfl

theorem scanFraction_append (h : ends rest) :
    Number.scanFraction (cs ++ rest) =
      ((Number.scanFraction cs).1, (Number.scanFraction cs).2 ++ rest) := by
  cases cs with
  | nil =>
    cases rest with
    | nil => rfl
    | cons c rest => exact scanFraction_of_ne (ne_of_ends h).2.1
  | cons c cs =>
    by_cases hc : c = '.'
    · subst hc
      obtain ⟨htake, hdrop⟩ := takeWhile_append_of_ends cs h
      simp only [Number.scanFraction, List.cons_append, htake, hdrop]
      split_ifs <;> rfl
    · rw [List.cons_append, scanFraction_of_ne hc, scanFraction_of_ne hc]
      rfl

theorem scanSigned_append (h : ends rest) :
    Number.scanSigned (cs ++ rest) =
      ((Number.scanSigned cs).1, (Number.scanSigned cs).2 ++ rest) := by
  cases cs with
  | nil =>
    cases rest with
    | nil => rfl
    | cons c rest =>
      obtain ⟨hdigit, -, -, -, hplus, hminus⟩ := ne_of_ends h
      simp [Number.scanSigned, hdigit, hplus, hminus]
  | cons c cs =>
    obtain ⟨htake, hdrop⟩ := takeWhile_append_of_ends cs h
    obtain ⟨htake', hdrop'⟩ := takeWhile_append_of_ends (c :: cs) h
    rw [List.cons_append] at htake' hdrop'
    simp only [Number.scanSigned, List.cons_append, htake, hdrop, htake', hdrop']
    split_ifs <;> rfl

theorem scanExponent_append (h : ends rest) :
    Number.scanExponent (cs ++ rest) =
      ((Number.scanExponent cs).1, (Number.scanExponent cs).2 ++ rest) := by
  cases cs with
  | nil =>
    cases rest with
    | nil => rfl
    | cons c rest =>
      obtain ⟨-, -, he, hE, -⟩ := ne_of_ends h
      simp [Number.scanExponent, he, hE]
  | cons c cs =>
    simp only [Number.scanExponent, List.cons_append, scanSigned_append h]
    split_ifs <;> rfl

theorem scan_append (h : ends rest) {p : List Char × List Char × List Char}
    (hs : Number.scan cs = some (p, t)) : Number.scan (cs ++ rest) = some (p, t ++ rest) := by
  obtain ⟨⟨i, u⟩, hi, heq⟩ := Option.map_eq_some_iff.1 hs
  cases heq
  simp only [Number.scan, scanInt_append h hi, Option.map_some, scanFraction_append h,
    scanExponent_append h]

theorem scanNat_concat {i : List Char} (hs : Number.scanNat cs = some (i, t)) : i ++ t = cs := by
  cases cs with
  | nil => cases hs
  | cons c cs =>
    simp only [Number.scanNat] at hs
    split_ifs at hs with hzero
    · cases hs
      rw [hzero]
      rfl
    · cases hs
      rw [List.cons_append, List.takeWhile_append_dropWhile]

theorem scanInt_concat {i : List Char} (hs : Number.scanInt cs = some (i, t)) : i ++ t = cs := by
  cases cs with
  | nil => cases hs
  | cons c cs =>
    by_cases hc : c = '-'
    · subst hc
      obtain ⟨⟨j, u⟩, hnat, heq⟩ := Option.map_eq_some_iff.1 hs
      cases heq
      rw [List.cons_append, scanNat_concat hnat]
    · rw [scanInt_of_ne hc] at hs
      exact scanNat_concat hs

theorem scanFraction_concat : (Number.scanFraction cs).1 ++ (Number.scanFraction cs).2 = cs := by
  unfold Number.scanFraction
  split
  · split_ifs
    · rfl
    · rw [List.cons_append, List.takeWhile_append_dropWhile]
  · rfl

theorem scanSigned_concat : (Number.scanSigned cs).1 ++ (Number.scanSigned cs).2 = cs := by
  unfold Number.scanSigned
  split
  · split_ifs
    · rfl
    · rw [List.cons_append, List.takeWhile_append_dropWhile]
    · exact List.takeWhile_append_dropWhile
  · rfl

theorem scanExponent_concat : (Number.scanExponent cs).1 ++ (Number.scanExponent cs).2 = cs := by
  unfold Number.scanExponent
  split
  · split_ifs
    · rfl
    · rw [List.cons_append, scanSigned_concat]
    · rfl
  · rfl

theorem scan_concat {i q e : List Char} (hs : Number.scan cs = some ((i, q, e), t)) :
    i ++ q ++ e ++ t = cs := by
  obtain ⟨⟨j, u⟩, hi, heq⟩ := Option.map_eq_some_iff.1 hs
  cases heq
  rw [List.append_assoc, scanExponent_concat, List.append_assoc, scanFraction_concat,
    scanInt_concat hi]

theorem digit_of_mem_toDigits {n : ℕ} {c : Char} (h : c ∈ Nat.toDigits 10 n) : digit c = true :=
  Nat.isDigit_of_mem_toDigits (by decide) (by decide) h

/-- A numeral does not start with a zero, but for the numeral of zero. -/
theorem head_toDigits (n : ℕ) (hn : n ≠ 0) : (Nat.toDigits 10 n).head? ≠ some '0' := by
  induction n using Nat.strong_induction_on with
  | _ n ih =>
    by_cases hlt : n < 10
    · have hchar : ∀ n < 10, n ≠ 0 → Nat.digitChar n ≠ '0' := by decide
      rw [Nat.toDigits_of_lt_base hlt]
      simpa using hchar n hlt hn
    · rw [Nat.toDigits_of_base_le (by decide) (by omega), List.head?_append_of_ne_nil _
        Nat.toDigits_ne_nil]
      exact ih (n / 10) (by omega) (by omega)

theorem scanNat_toDigits (n : ℕ) : Number.scanNat (Nat.toDigits 10 n) =
    some (Nat.toDigits 10 n, []) := by
  by_cases hn : n = 0
  · subst hn
    rfl
  have hhead := head_toDigits n hn
  have hdigit : ∀ c ∈ Nat.toDigits 10 n, digit c = true := fun c => digit_of_mem_toDigits
  revert hhead hdigit
  cases hds : Nat.toDigits 10 n with
  | nil => exact absurd hds Nat.toDigits_ne_nil
  | cons c cs =>
    intro hhead hdigit
    rw [List.forall_mem_cons] at hdigit
    have hc : c ≠ '0' := fun hc => hhead (by rw [hc]; rfl)
    simp only [Number.scanNat, hc, if_false, hdigit.1, if_true,
      List.takeWhile_eq_self_iff.2 hdigit.2, List.dropWhile_eq_nil_iff.2 hdigit.2]

theorem scan_intText (n : ℤ) : Number.scan (intText n) = some ((intText n, [], []), []) := by
  have hint : Number.scanInt (intText n) = some (intText n, []) := by
    cases n with
    | ofNat n =>
      have hds := scanNat_toDigits n
      revert hds
      rw [intText]
      cases h : Nat.toDigits 10 n with
      | nil => exact absurd h Nat.toDigits_ne_nil
      | cons c cs =>
        intro hds
        have hc : digit c = true := digit_of_mem_toDigits (n := n) (by rw [h]; exact .head _)
        rw [scanInt_of_ne (by rintro rfl; cases hc), hds]
    | negSucc n => simp [intText, Number.scanInt, scanNat_toDigits]
  simp [Number.scan, hint, Number.scanFraction, Number.scanExponent]

theorem intValue_intText (n : ℤ) : Number.intValue (intText n) = n := by
  cases n with
  | ofNat n =>
    have hhead : ∀ cs, Nat.toDigits 10 n ≠ '-' :: cs := by
      intro cs h
      have hminus : digit '-' = true := digit_of_mem_toDigits (n := n) (by rw [h]; exact .head _)
      cases hminus
    unfold Number.intValue intText
    split
    · rename_i h
      exact absurd h (hhead _)
    · rw [Nat.ofDigitChars_ten_toDigits]
      rfl
  | negSucc n =>
    simp only [intText, Number.intValue, Nat.ofDigitChars_ten_toDigits]
    omega

theorem filter_intText (n : ℤ) : (intText n).filter digit = Nat.toDigits 10 n.natAbs := by
  have hall : ∀ n, (Nat.toDigits 10 n).filter digit = Nat.toDigits 10 n := fun n =>
    List.filter_eq_self.2 fun c => digit_of_mem_toDigits
  cases n with
  | ofNat n => exact hall n
  | negSucc n =>
    rw [intText, List.filter_cons_of_neg (by decide), hall]
    rfl

end Numbers

/-! ### Strings are read back -/

section Strings

variable {rest : List Char}

theorem hexValue_hexChar : ∀ n < 16, hexValue (hexChar n) = some n := by decide

theorem readUnicode_control {c : Char} (hc : c.toNat < 32) :
    readUnicode ('0' :: '0' :: hexChar (c.toNat / 16) :: hexChar (c.toNat % 16) :: rest) =
      .ok (c, rest) := by
  have hhex : readHex ('0' :: '0' :: hexChar (c.toNat / 16) :: hexChar (c.toNat % 16) :: rest) =
      some (c.toNat, rest) := by
    have hzero : hexValue '0' = some 0 := by decide
    simp only [readHex, hzero, hexValue_hexChar _ (Nat.mod_lt c.toNat (by decide)),
      hexValue_hexChar (c.toNat / 16) (by omega), Option.bind_eq_bind, Option.bind_some,
      Option.pure_def, Option.some.injEq, Prod.mk.injEq, and_true]
    omega
  have hsurrogate : ¬ (0xd800 ≤ c.toNat ∧ c.toNat < 0xdc00) := by omega
  have hvalid : c.toNat.isValidChar := c.valid
  simp only [readUnicode, hhex, hsurrogate, if_false]
  exact dif_pos hvalid

theorem readString_escapeChar (c : Char) (n : ℕ) :
    readString (n + 1) (escapeChar c ++ rest) =
      (do let (ds, cs) ← readString n rest; pure (c :: ds, cs)) := by
  have hback : ∀ {d : Char} {es : List Char}, readEscape (es ++ rest) = .ok (d, rest) →
      readString (n + 1) ('\\' :: es ++ rest) =
        (do let (ds, cs) ← readString n rest; pure (d :: ds, cs)) := by
    intro d es h
    have hne : ('\\' : Char) ≠ '"' := by decide
    simp only [List.cons_append, readString, hne, if_false, if_true, h, ok_bind]
  unfold escapeChar
  split_ifs with h₁ h₂ h₃ h₄ h₅ h₆ h₇ h₈
  · subst h₁; exact hback rfl
  · subst h₂; exact hback rfl
  · subst h₃; exact hback rfl
  · subst h₄; exact hback rfl
  · subst h₅; exact hback rfl
  · obtain rfl : c = '\x08' := Char.ext (UInt32.toNat_inj.1 h₆)
    exact hback rfl
  · obtain rfl : c = '\x0c' := Char.ext (UInt32.toNat_inj.1 h₇)
    exact hback rfl
  · exact hback (readUnicode_control h₈)
  · simp only [List.cons_append, List.nil_append, readString, h₁, h₂, h₈, if_false]

theorem readString_chars (cs : List Char) (n : ℕ) (hn : cs.length < n) :
    readString n (cs.flatMap escapeChar ++ '"' :: rest) = .ok (cs, rest) := by
  induction cs generalizing n with
  | nil =>
    obtain ⟨n, rfl⟩ : ∃ m, n = m + 1 := ⟨n - 1, by simp at hn; omega⟩
    rfl
  | cons c cs ih =>
    obtain ⟨n, rfl⟩ : ∃ m, n = m + 1 := ⟨n - 1, by simp at hn; omega⟩
    rw [List.flatMap_cons, List.append_assoc, readString_escapeChar,
      ih n (by simpa using hn)]
    rfl

theorem length_le_flatMap_escapeChar (cs : List Char) :
    cs.length ≤ (cs.flatMap escapeChar).length := by
  induction cs with
  | nil => exact le_rfl
  | cons c cs ih =>
    have hpos : 1 ≤ (escapeChar c).length := by
      unfold escapeChar
      split_ifs <;> simp
    simp only [List.flatMap_cons, List.length_append, List.length_cons]
    omega

theorem readString_quote (s : String) :
    readString (s.toList.flatMap escapeChar ++ '"' :: rest).length
      (s.toList.flatMap escapeChar ++ '"' :: rest) = .ok (s.toList, rest) := by
  refine readString_chars _ _ ?_
  have := length_le_flatMap_escapeChar s.toList
  simp only [List.length_append, List.length_cons]
  omega

end Strings

/-! ### Values are read back -/

section Values

variable {r} {rest cs : List Char}

/-- The characters that a value starts with. -/
def opens (c : Char) : Bool := !(blank c || c == ']' || c == '\x7d')

theorem head_of_scan {c : Char} {p : (List Char × List Char × List Char) × List Char}
    (h : Number.scan (c :: cs) = some p) : c = '-' ∨ digit c = true := by
  by_cases hc : c = '-'
  · exact .inl hc
  · right
    obtain ⟨q, hq, -⟩ := Option.map_eq_some_iff.1 h
    rw [scanInt_of_ne hc] at hq
    simp only [Number.scanNat] at hq
    split_ifs at hq with hzero hdigit
    · subst hzero
      rfl
    · exact hdigit

theorem opens_of_scan {p : (List Char × List Char × List Char) × List Char}
    (h : Number.scan cs = some p) : ∃ c t, cs = c :: t ∧ opens c = true := by
  cases cs with
  | nil => cases h
  | cons c t =>
    refine ⟨c, t, rfl, ?_⟩
    rcases head_of_scan h with rfl | hdigit
    · rfl
    · simp only [digit, Bool.and_eq_true, decide_eq_true_eq, Char.le_def] at hdigit
      simp only [opens, blank, Bool.not_eq_true', Bool.or_eq_false_iff, beq_eq_false_iff_ne]
      refine ⟨⟨⟨⟨⟨?_, ?_⟩, ?_⟩, ?_⟩, ?_⟩, ?_⟩ <;> rintro rfl <;> revert hdigit <;> decide

theorem FloatLit.scan (f : FloatLit) : ∃ i q e, Number.scan f.text.toList = some ((i, q, e), []) ∧
    (q.isEmpty && e.isEmpty) = false := by
  have hok := f.ok
  cases h : Number.scan f.text.toList with
  | none => rw [h] at hok; cases hok
  | some p =>
    obtain ⟨⟨i, q, e⟩, t⟩ := p
    rw [h] at hok
    simp only [Option.any_some, Bool.and_eq_true, List.isEmpty_iff, Bool.not_eq_true'] at hok
    exact ⟨i, q, e, by rw [hok.1], hok.2⟩

/-- A value starts with a character that is neither blank nor closes anything. -/
theorem dumps_opens (v : Json) : ∃ c t, dumps v = c :: t ∧ opens c = true := by
  cases v with
  | null => exact ⟨_, _, rfl, rfl⟩
  | bool b => cases b <;> exact ⟨_, _, rfl, rfl⟩
  | int n => exact opens_of_scan (scan_intText n)
  | float f =>
    obtain ⟨i, q, e, h, -⟩ := FloatLit.scan f
    exact opens_of_scan h
  | str s => exact ⟨_, _, rfl, rfl⟩
  | arr xs => exact ⟨_, _, rfl, rfl⟩
  | obj kvs => exact ⟨_, _, rfl, rfl⟩

theorem skip_of_opens {c : Char} (h : opens c = true) : skip (c :: cs) = c :: cs := by
  have hblank : blank c = false := by
    simp only [opens, Bool.not_eq_true', Bool.or_eq_false_iff] at h
    exact h.1.1
  simp [skip, hblank]

theorem skip_dumps (v : Json) (t : List Char) : skip (dumps v ++ t) = dumps v ++ t := by
  obtain ⟨c, u, hopen, hc⟩ := dumps_opens v
  rw [hopen]
  exact skip_of_opens hc

theorem readValue_of_scan {p : (List Char × List Char × List Char) × List Char} (depth : ℕ)
    (h : Number.scan cs = some p) : readValue r (depth + 1) cs = readNumber r cs := by
  have hatom : readAtom r cs = readNumber r cs := by
    unfold readAtom
    split <;> first | rfl | cases h
  rw [← hatom]
  unfold readValue
  split <;> first | rfl | contradiction

theorem readNumber_intText {n : ℤ} (h : readable r.toFloatReader (.int n) = true)
    (hrest : ends rest) : readNumber r (intText n ++ rest) = .ok (.int n, rest) := by
  have hscan := scan_append hrest (scan_intText n)
  rw [List.nil_append] at hscan
  have hdigits : ((intText n).filter digit).length ≤ 4300 := by
    rw [filter_intText]
    simpa [readable] using h
  simp only [readNumber, hscan, List.isEmpty_nil, Bool.and_self, if_true, hdigits,
    intValue_intText]

theorem readNumber_float {f : FloatLit} (h : readable r.toFloatReader (.float f) = true)
    (hrest : ends rest) : readNumber r (f.text.toList ++ rest) = .ok (.float f, rest) := by
  obtain ⟨i, q, e, hf, hparts⟩ := FloatLit.scan f
  have hscan := scan_append hrest hf
  rw [List.nil_append] at hscan
  have htext : FloatLit.ofText? (i ++ q ++ e) = some f := by
    have hconcat := scan_concat hf
    rw [List.append_nil] at hconcat
    rw [hconcat, FloatLit.ofText?, dif_pos]
    · simp only [String.ofList_toList]
    · rw [String.ofList_toList]
      exact f.ok
  have hread : r.float f = some f := by simpa [readable] using h
  simp only [readNumber, hscan, hparts, Bool.false_eq_true, if_false, htext, hread]

theorem ends_moreItems (xs : List Json) : ends (dumpsMoreItems xs ++ rest) = true := by
  cases xs <;> rfl

theorem ends_moreMembers (kvs : List (String × Json)) :
    ends (dumpsMoreMembers kvs ++ rest) = true := by
  cases kvs <;> rfl

theorem length_le_moreItems (xs : List Json) : xs.length < (dumpsMoreItems xs).length := by
  induction xs with
  | nil => exact Nat.zero_lt_one
  | cons x xs ih =>
    simp only [dumpsMoreItems, List.length_cons, List.length_append]
    omega

theorem length_le_moreMembers (kvs : List (String × Json)) :
    kvs.length < (dumpsMoreMembers kvs).length := by
  induction kvs with
  | nil => exact Nat.zero_lt_one
  | cons p kvs ih =>
    simp only [dumpsMoreMembers, List.length_cons, List.length_append]
    omega

theorem readItems_dumps {value : List Char → Except ReadError (Json × List Char)} (x : Json)
    (xs : List Json) (hvalue : ∀ y ∈ x :: xs, ∀ t, ends t = true → value (dumps y ++ t) =
      .ok (y, t))
    (fuel : ℕ) (hfuel : xs.length < fuel) (rest : List Char) :
    readItems value fuel (dumps x ++ (dumpsMoreItems xs ++ rest)) = .ok (x :: xs, rest) := by
  induction xs generalizing x fuel with
  | nil =>
    obtain ⟨fuel, rfl⟩ : ∃ m, fuel = m + 1 := ⟨fuel - 1, by simp at hfuel; omega⟩
    simp only [readItems, hvalue x (.head _) _ (ends_moreItems []), ok_bind]
    rfl
  | cons y ys ih =>
    obtain ⟨fuel, rfl⟩ : ∃ m, fuel = m + 1 := ⟨fuel - 1, by simp at hfuel; omega⟩
    have htail := ih y (fun z hz => hvalue z (.tail _ hz)) fuel (by simpa using hfuel)
    have hcomma : skip (dumpsMoreItems (y :: ys) ++ rest) =
        ',' :: (dumps y ++ (dumpsMoreItems ys ++ rest)) := by
      rw [dumpsMoreItems, List.cons_append, List.append_assoc]
      exact skip_of_opens rfl
    simp only [readItems, hvalue x (.head _) _ (ends_moreItems _), ok_bind, hcomma, skip_dumps,
      htail]
    rfl

/-- The members of an object are read back when each of their values is. -/
theorem readMembers_dumps {value : List Char → Except ReadError (Json × List Char)}
    (k : String) (x : Json) (kvs : List (String × Json))
    (hvalue : ∀ q ∈ (k, x) :: kvs, ∀ t, ends t = true → value (dumps q.2 ++ t) = .ok (q.2, t))
    (fuel : ℕ) (hfuel : kvs.length < fuel) (rest : List Char) :
    readMembers value fuel (quote k ++ ':' :: (dumps x ++ (dumpsMoreMembers kvs ++ rest))) =
      .ok ((k, x) :: kvs, rest) := by
  have hcolon : ∀ t, skip (':' :: t) = ':' :: t := fun t => skip_of_opens rfl
  induction kvs generalizing k x fuel with
  | nil =>
    obtain ⟨fuel, rfl⟩ : ∃ m, fuel = m + 1 := ⟨fuel - 1, by simp at hfuel; omega⟩
    have hclose : skip (dumpsMoreMembers [] ++ rest) = '\x7d' :: rest := rfl
    simp only [quote, List.cons_append, List.append_assoc, List.nil_append, readMembers,
      readString_quote, ok_bind, hcolon, skip_dumps, hvalue _ (.head _) _ (ends_moreMembers _),
      String.ofList_toList, hclose]
    rfl
  | cons q kvs ih =>
    obtain ⟨l, y⟩ := q
    obtain ⟨fuel, rfl⟩ : ∃ m, fuel = m + 1 := ⟨fuel - 1, by simp at hfuel; omega⟩
    have htail := ih l y (fun z hz => hvalue z (.tail _ hz)) fuel (by simpa using hfuel)
    have hcomma : skip (dumpsMoreMembers ((l, y) :: kvs) ++ rest) =
        ',' :: (quote l ++ ':' :: (dumps y ++ (dumpsMoreMembers kvs ++ rest))) := by
      simp only [dumpsMoreMembers, List.cons_append, List.append_assoc]
      exact skip_of_opens rfl
    have hquote : ∀ t, skip (quote l ++ t) = quote l ++ t := fun t => skip_of_opens rfl
    rw [quote, List.cons_append, List.append_assoc]
    simp only [List.cons_append, List.nil_append, readMembers, readString_quote, ok_bind, hcolon,
      skip_dumps, hvalue _ (.head _) _ (ends_moreMembers _), String.ofList_toList, hcomma, hquote,
      htail]
    rfl

theorem readValue_array {c : Char} (hc : opens c = true) (depth : ℕ) :
    readValue r (depth + 1) ('[' :: c :: cs) = (do
      let (xs, t) ← readItems (readValue r depth) (c :: cs).length (c :: cs)
      pure (.arr xs, t)) := by
  simp only [readValue, skip_of_opens hc]
  split
  · rename_i heq
    cases heq
    cases hc
  · rfl

theorem readValue_object {c : Char} (hc : opens c = true) (depth : ℕ) :
    readValue r (depth + 1) ('\x7b' :: c :: cs) = (do
      let (kvs, t) ← readMembers (readValue r depth) (c :: cs).length (c :: cs)
      let kvs ← r.hook kvs
      pure (.obj kvs, t)) := by
  simp only [readValue, skip_of_opens hc]
  split
  · rename_i heq
    cases heq
    cases hc
  · rfl

theorem readValue_dumps (v : Json) : ∀ (depth : ℕ) (rest : List Char),
    readable r.toFloatReader v = true → nesting v ≤ depth → ends rest = true →
      readValue r depth (dumps v ++ rest) = .ok (v, rest) := by
  -- every value is read at a positive depth; a list and an object read their parts one level deeper
  induction v using values_induction with
  | null =>
    rintro (_ | depth) rest hv hdepth hrest
    · cases hdepth
    · rfl
  | bool b =>
    rintro (_ | depth) rest hv hdepth hrest
    · cases hdepth
    · cases b <;> rfl
  | int n =>
    rintro (_ | depth) rest hv hdepth hrest
    · cases hdepth
    · rw [dumps, readValue_of_scan depth (scan_append hrest (scan_intText n)),
        readNumber_intText hv hrest]
  | float f =>
    rintro (_ | depth) rest hv hdepth hrest
    · cases hdepth
    · obtain ⟨i, q, e, hf, -⟩ := FloatLit.scan f
      rw [dumps, readValue_of_scan depth (scan_append hrest hf), readNumber_float hv hrest]
  | str s =>
    rintro (_ | depth) rest hv hdepth hrest
    · cases hdepth
    · simp only [dumps, quote, List.cons_append, List.append_assoc, List.nil_append, readValue,
        readString_quote, ok_bind, String.ofList_toList]
      rfl
  | arr xs ih =>
    rintro (_ | depth) rest hv hdepth hrest
    · cases hdepth
    simp only [readable, readableItems_iff] at hv
    simp only [nesting, Nat.add_le_add_iff_right, nestingItems_le] at hdepth
    cases xs with
    | nil => rfl
    | cons x xs =>
      obtain ⟨c, t, hx, hc⟩ := dumps_opens x
      have hitems := readItems_dumps x xs
        (fun y hy t ht => ih y hy depth t (hv y hy) (hdepth y hy) ht)
        (dumps x ++ (dumpsMoreItems xs ++ rest)).length
        (by have := length_le_moreItems xs; simp only [List.length_append]; omega) rest
      rw [hx, List.cons_append] at hitems
      rw [dumps, dumpsItems, List.cons_append, List.append_assoc, hx, List.cons_append,
        readValue_array hc, hitems]
      rfl
  | obj kvs ih =>
    rintro (_ | depth) rest hv hdepth hrest
    · cases hdepth
    simp only [readable, Bool.and_eq_true, decide_eq_true_eq, readableMembers_iff] at hv
    simp only [nesting, Nat.add_le_add_iff_right, nestingMembers_le] at hdepth
    cases kvs with
    | nil => rfl
    | cons p kvs =>
      obtain ⟨k, x⟩ := p
      have hmembers := readMembers_dumps k x kvs
        (fun y hy t ht => ih y hy depth t (hv.2 y hy) (hdepth y hy) ht)
        (quote k ++ ':' :: (dumps x ++ (dumpsMoreMembers kvs ++ rest))).length
        (by
          have := length_le_moreMembers kvs
          simp only [List.length_append, List.length_cons]
          omega) rest
      simp only [quote, List.cons_append] at hmembers
      simp only [dumps, dumpsMembers, quote, List.cons_append, List.append_assoc,
        readValue_object (c := '"') rfl] at hmembers ⊢
      rw [hmembers, ok_bind]
      simp only [r.hook_nodup _ hv.1]
      rfl

theorem length_dumps_le_moreItems {x : Json} {xs : List Json} (h : x ∈ xs) :
    (dumps x).length ≤ (dumpsMoreItems xs).length := by
  induction xs with
  | nil => cases h
  | cons y ys ih =>
    simp only [dumpsMoreItems, List.length_cons, List.length_append]
    rcases List.mem_cons.1 h with rfl | h
    · omega
    · have := ih h
      omega

theorem length_dumps_le_moreMembers {p : String × Json} {kvs : List (String × Json)} (h : p ∈ kvs) :
    (dumps p.2).length ≤ (dumpsMoreMembers kvs).length := by
  induction kvs with
  | nil => cases h
  | cons q kvs ih =>
    simp only [dumpsMoreMembers, List.length_cons, List.length_append]
    rcases List.mem_cons.1 h with rfl | h
    · omega
    · have := ih h
      omega

theorem nesting_le_length (v : Json) : nesting v ≤ (dumps v).length := by
  induction v using values_induction with
  | arr xs ih =>
    rw [nesting, dumps, List.length_cons, Nat.add_le_add_iff_right, nestingItems_le]
    intro x hx
    refine (ih x hx).trans ?_
    cases xs with
    | nil => cases hx
    | cons y ys =>
      rw [dumpsItems, List.length_append]
      rcases List.mem_cons.1 hx with rfl | hx
      · exact Nat.le_add_right _ _
      · exact (length_dumps_le_moreItems hx).trans (Nat.le_add_left _ _)
  | obj kvs ih =>
    rw [nesting, dumps, List.length_cons, Nat.add_le_add_iff_right, nestingMembers_le]
    intro p hp
    refine (ih p hp).trans ?_
    cases kvs with
    | nil => cases hp
    | cons q kvs =>
      simp only [dumpsMembers, List.length_append, List.length_cons]
      rcases List.mem_cons.1 hp with rfl | hp
      · omega
      · have := length_dumps_le_moreMembers hp
        omega
  | _ =>
    obtain ⟨c, t, h, -⟩ := dumps_opens _
    rw [h]
    exact Nat.le_add_left 1 t.length

/-- **Round trip.** A readable value is read back from its text. -/
theorem loads_dumps {v : Json} {depth : ℕ} (hv : readable r.toFloatReader v = true)
    (hdepth : nesting v ≤ depth) : loads r depth (dumps v) = .ok v := by
  obtain ⟨c, t, hopen, hc⟩ := dumps_opens v
  have hread := readValue_dumps v depth [] hv hdepth rfl
  rw [List.append_nil] at hread
  have hskip : skip (dumps v) = dumps v := by
    rw [hopen]
    exact skip_of_opens hc
  simp only [loads, hskip, hread, ok_bind]
  rfl

/-! ### What is read is readable -/

theorem ofDigitChars_lt {ds : List Char} (hds : ∀ c ∈ ds, digit c = true) (k n : ℕ)
    (hn : n < 10 ^ k) : Nat.ofDigitChars 10 ds n < 10 ^ (k + ds.length) := by
  induction ds generalizing k n with
  | nil => simpa [Nat.ofDigitChars_nil] using hn
  | cons c ds ih =>
    rw [List.forall_mem_cons] at hds
    have hc : c.toNat - '0'.toNat ≤ 9 := by
      have hle : c.toNat ≤ '9'.toNat := by
        have := hds.1
        simp only [digit, Bool.and_eq_true, decide_eq_true_eq, Char.le_def] at this
        exact this.2
      have : '9'.toNat = 57 := rfl
      have : '0'.toNat = 48 := rfl
      omega
    rw [Nat.ofDigitChars_cons, List.length_cons, Nat.add_comm ds.length, ← Nat.add_assoc]
    refine ih hds.2 (k + 1) _ ?_
    rw [pow_succ]
    omega

theorem length_toDigits_le {ds : List Char} (hds : ∀ c ∈ ds, digit c = true) (k : ℕ) (hk : 0 < k)
    (hlen : ds.length ≤ k) : (Nat.toDigits 10 (Nat.ofDigitChars 10 ds 0)).length ≤ k := by
  rw [Nat.length_toDigits_le_iff (by decide) hk]
  calc Nat.ofDigitChars 10 ds 0 < 10 ^ (0 + ds.length) := ofDigitChars_lt hds 0 0 (by decide)
    _ ≤ 10 ^ k := Nat.pow_le_pow_right (by decide) (by omega)

theorem digit_of_scanNat {i t : List Char} (h : Number.scanNat cs = some (i, t)) :
    ∀ c ∈ i, digit c = true := by
  cases cs with
  | nil => cases h
  | cons c cs =>
    simp only [Number.scanNat] at h
    split_ifs at h with hzero hdigit
    · cases h
      simp [digit]
    · cases h
      rw [List.forall_mem_cons]
      exact ⟨hdigit, fun d hd => List.mem_takeWhile_imp hd⟩

theorem readable_int {n : ℤ} {ds : List Char} (hn : n.natAbs = Nat.ofDigitChars 10 ds 0)
    (hds : ∀ c ∈ ds, digit c = true) (hlen : ds.length ≤ 4300) : readable r.toFloatReader (.int n) =
      true := by
  rw [readable, decide_eq_true_eq, hn]
  exact length_toDigits_le hds 4300 (by decide) hlen

theorem readable_intValue {i t : List Char} (h : Number.scanInt cs = some (i, t))
    (hdigits : (i.filter digit).length ≤ 4300) :
      readable r.toFloatReader (.int (Number.intValue i)) = true := by
  cases cs with
  | nil => cases h
  | cons c cs =>
    by_cases hc : c = '-'
    · subst hc
      obtain ⟨⟨j, u⟩, hnat, heq⟩ := Option.map_eq_some_iff.1 h
      cases heq
      have hj := digit_of_scanNat hnat
      rw [List.filter_cons_of_neg (by decide), List.filter_eq_self.2 hj] at hdigits
      exact readable_int (by simp [Number.intValue]) hj hdigits
    · rw [scanInt_of_ne hc] at h
      have hi := digit_of_scanNat h
      rw [List.filter_eq_self.2 hi] at hdigits
      refine readable_int ?_ hi hdigits
      unfold Number.intValue
      split
      · cases hi '-' (.head _)
      · rfl

theorem readable_of_readNumber {v : Json} {t : List Char} (h : readNumber r cs = .ok (v, t)) :
    readable r.toFloatReader v = true := by
  unfold readNumber at h
  split at h
  · cases h
  rename_i i q e u hscan
  split_ifs at h with hint hdigits
  · cases h
    obtain ⟨⟨j, w⟩, hi, heq⟩ := Option.map_eq_some_iff.1 hscan
    cases heq
    exact readable_intValue hi hdigits
  · split at h
    · cases h
    split at h
    · cases h
    · rename_i hfloat
      cases h
      simp [readable, r.float_repr _ _ hfloat]

theorem readable_of_readAtom {v : Json} {t : List Char} (h : readAtom r cs = .ok (v, t)) :
    readable r.toFloatReader v = true := by
  unfold readAtom at h
  split at h
  · cases h; rfl
  · cases h; rfl
  · cases h; rfl
  · cases h
  · cases h
  · cases h
  · exact readable_of_readNumber h

theorem value_of_readItems {value : List Char → Except ReadError (Json × List Char)} {fuel : ℕ}
    {xs : List Json} {t : List Char} (h : readItems value fuel cs = .ok (xs, t)) :
    ∀ x ∈ xs, ∃ u u', value u = .ok (x, u') := by
  induction fuel generalizing cs xs t with
  | zero => cases h
  | succ fuel ih =>
    obtain ⟨⟨x, u⟩, hx, h⟩ := bind_eq_ok.1 h
    simp only at h
    split at h
    · obtain ⟨⟨ys, w⟩, hys, h⟩ := bind_eq_ok.1 h
      cases h
      exact List.forall_mem_cons.2 ⟨⟨_, _, hx⟩, ih hys⟩
    · cases h
      exact List.forall_mem_cons.2 ⟨⟨_, _, hx⟩, nofun⟩
    · cases h

theorem value_of_readMembers {value : List Char → Except ReadError (Json × List Char)} {fuel : ℕ}
    {kvs : List (String × Json)} {t : List Char} (h : readMembers value fuel cs = .ok (kvs, t)) :
    ∀ p ∈ kvs, ∃ u u', value u = .ok (p.2, u') := by
  induction fuel generalizing cs kvs t with
  | zero => cases h
  | succ fuel ih =>
    unfold readMembers at h
    split at h
    · cases h
    · rename_i heq
      cases heq
      obtain ⟨⟨k, u⟩, -, h⟩ := bind_eq_ok.1 h
      simp only at h
      split at h
      · obtain ⟨⟨x, w⟩, hx, h⟩ := bind_eq_ok.1 h
        simp only at h
        split at h
        · obtain ⟨⟨ys, w⟩, hys, h⟩ := bind_eq_ok.1 h
          cases h
          exact List.forall_mem_cons.2 ⟨⟨_, _, hx⟩, ih hys⟩
        · cases h
          exact List.forall_mem_cons.2 ⟨⟨_, _, hx⟩, nofun⟩
        · cases h
      · cases h
    · cases h

theorem readable_of_readValue {depth : ℕ} {v : Json} {t : List Char}
    (h : readValue r depth cs = .ok (v, t)) : readable r.toFloatReader v = true := by
  induction depth generalizing cs v t with
  | zero => cases h
  | succ depth ih =>
    unfold readValue at h
    split at h
    · cases h
    · rename_i heq
      cases heq
      split at h
      · cases h; rfl
      · obtain ⟨⟨xs, u⟩, hxs, h⟩ := bind_eq_ok.1 h
        cases h
        rw [readable, readableItems_iff]
        intro x hx
        obtain ⟨_, _, hread⟩ := value_of_readItems hxs x hx
        exact ih hread
    · rename_i heq
      cases heq
      split at h
      · cases h; rfl
      · obtain ⟨⟨kvs, u⟩, hkvs, h⟩ := bind_eq_ok.1 h
        obtain ⟨kvs', hhook, h⟩ := bind_eq_ok.1 h
        cases h
        -- the hook keeps members of the text, with distinct keys
        obtain ⟨hnodup, hsub⟩ := r.nodup_hook _ _ hhook
        rw [readable, Bool.and_eq_true, decide_eq_true_eq, readableMembers_iff]
        refine ⟨hnodup, fun p hp => ?_⟩
        obtain ⟨_, _, hread⟩ := value_of_readMembers hkvs p (hsub hp)
        exact ih hread
    · obtain ⟨⟨s, u⟩, -, h⟩ := bind_eq_ok.1 h
      cases h
      rfl
    · exact readable_of_readAtom h

/-- **What is read is readable.** -/
theorem readable_of_loads {depth : ℕ} {v : Json} (h : loads r depth cs = .ok v) :
    readable r.toFloatReader v = true := by
  obtain ⟨⟨w, u⟩, hread, h⟩ := bind_eq_ok.1 h
  obtain ⟨-, -, h⟩ := bind_eq_ok.1 h
  cases h
  exact readable_of_readValue hread

end Values

end ArchiDeal.Json
