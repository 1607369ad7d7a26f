import ArchiDeal.Lib.Json
import Mathlib.Data.List.TakeWhile
import Mathlib.Data.Rat.Defs
import Mathlib.Algebra.Order.Ring.Rat

/-!
# RFC 3339 timestamps

`instant`: the instant of a date and time with an offset, in seconds from the start of the year 0 of
the Gregorian calendar. A fraction of a second has any number of digits. A leap second is the first
second of the next minute.
-/

namespace ArchiDeal.Rfc3339

open Text

/-- A number of `width` digits, and what follows it. -/
def natural (width : ℕ) (cs : List Char) : Option (ℕ × List Char) :=
  if (cs.take width).length = width ∧ (cs.take width).all digit then
    some (Nat.ofDigitChars 10 (cs.take width) 0, cs.drop width)
  else none

/-- One of some characters, and what follows it. -/
def oneOf (allowed : List Char) : List Char → Option (Char × List Char)
  | c :: cs => if c ∈ allowed then some (c, cs) else none
  | [] => none

/-- A leap year. -/
def isLeap (year : ℕ) : Bool := year % 4 == 0 && (year % 100 != 0 || year % 400 == 0)

/-- The number of days of a month. -/
def monthLength (year month : ℕ) : ℕ :=
  if month = 2 then if isLeap year then 29 else 28
  else if month ∈ [4, 6, 9, 11] then 30 else 31

/-- The number of days before a date. -/
def dayNumber (year month day : ℕ) : ℕ :=
  365 * year + (year + 3) / 4 - (year + 99) / 100 + (year + 399) / 400 +
    ((List.range (month - 1)).map fun m => monthLength year (m + 1)).sum + (day - 1)

/-- `time-secfrac`, if there is one. -/
def fraction : List Char → Option (ℚ × List Char)
  | '.' :: cs =>
    let ds := cs.takeWhile digit
    if ds.isEmpty then none
    else some (Nat.ofDigitChars 10 ds 0 / 10 ^ ds.length, cs.dropWhile digit)
  | cs => some (0, cs)

/-- `time-offset`, in minutes, at the end of a text. -/
def offset (cs : List Char) : Option ℤ := do
  let (sign, cs) ← oneOf ['Z', 'z', '+', '-'] cs
  if sign = 'Z' ∨ sign = 'z' then
    if cs.isEmpty then some 0 else none
  else do
    let (hour, cs) ← natural 2 cs
    let (_, cs) ← oneOf [':'] cs
    let (minute, cs) ← natural 2 cs
    if cs.isEmpty ∧ hour ≤ 23 ∧ minute ≤ 59 then
      some (if sign = '+' then (hour * 60 + minute : ℕ) else -(hour * 60 + minute : ℕ))
    else none

/-- `date-time`. -/
def instant (cs : List Char) : Option ℚ := do
  let (year, cs) ← natural 4 cs
  let (_, cs) ← oneOf ['-'] cs
  let (month, cs) ← natural 2 cs
  let (_, cs) ← oneOf ['-'] cs
  let (day, cs) ← natural 2 cs
  let (_, cs) ← oneOf ['T', 't'] cs
  let (hour, cs) ← natural 2 cs
  let (_, cs) ← oneOf [':'] cs
  let (minute, cs) ← natural 2 cs
  let (_, cs) ← oneOf [':'] cs
  let (second, cs) ← natural 2 cs
  let (frac, cs) ← fraction cs
  let zone ← offset cs
  if 1 ≤ month ∧ month ≤ 12 ∧ 1 ≤ day ∧ day ≤ monthLength year month ∧ hour ≤ 23 ∧ minute ≤ 59 ∧
      second ≤ 60 then
    some (((dayNumber year month day * 24 + hour : ℕ) * 60 + minute - zone) * 60 + second + frac)
  else none

example : instant "1970-01-01T00:00:00Z".toList = some 62167219200 := by decide +kernel

/-! ### Timestamps are ASCII -/

/-- The characters are ASCII. -/
def Ascii (cs : List Char) : Prop := ∀ c ∈ cs, c.toNat < 128

instance (cs : List Char) : Decidable (Ascii cs) :=
  List.decidableBAll _ _

theorem ascii_of_digit {c : Char} (h : digit c = true) : c.toNat < 128 := by
  simp only [digit, Bool.and_eq_true, decide_eq_true_eq, Char.le_def, UInt32.le_iff_toNat_le] at h
  have : c.toNat ≤ 57 := h.2
  omega

section Ascii

variable {cs rest : List Char}

theorem natural_ascii {width n : ℕ} (h : natural width cs = some (n, rest)) (hrest : Ascii rest) :
    Ascii cs := by
  unfold natural at h
  split_ifs at h with hdigits
  cases h
  intro c hc
  rw [← List.take_append_drop width cs, List.mem_append] at hc
  rcases hc with hc | hc
  · exact ascii_of_digit (List.all_eq_true.1 hdigits.2 c hc)
  · exact hrest c hc

theorem oneOf_ascii {allowed : List Char} {c : Char} (hallowed : Ascii allowed)
    (h : oneOf allowed cs = some (c, rest)) (hrest : Ascii rest) : Ascii cs := by
  cases cs with
  | nil => cases h
  | cons d cs =>
    rw [oneOf] at h
    split_ifs at h with hmem
    cases h
    exact List.forall_mem_cons.2 ⟨hallowed _ hmem, hrest⟩

theorem fraction_ascii {q : ℚ} (h : fraction cs = some (q, rest)) (hrest : Ascii rest) :
    Ascii cs := by
  unfold fraction at h
  split at h
  · next ds =>
    simp only at h
    split_ifs at h
    cases h
    refine List.forall_mem_cons.2 ⟨by decide, fun c hc => ?_⟩
    rw [← List.takeWhile_append_dropWhile (p := digit) (l := ds), List.mem_append] at hc
    rcases hc with hc | hc
    · exact ascii_of_digit (List.mem_takeWhile_imp hc)
    · exact hrest c hc
  · cases h
    exact hrest

theorem offset_ascii {z : ℤ} (h : offset cs = some z) : Ascii cs := by
  have hnil : ∀ {l : List Char}, l.isEmpty = true → Ascii l := fun hl => by
    rw [List.isEmpty_iff.1 hl]
    exact nofun
  obtain ⟨⟨sign, cs₁⟩, h₁, h⟩ := Option.bind_eq_some_iff.1 h
  refine oneOf_ascii (by decide) h₁ ?_
  simp only at h
  by_cases hz : sign = 'Z' ∨ sign = 'z'
  · rw [if_pos hz] at h
    split_ifs at h with hempty
    exact hnil hempty
  · rw [if_neg hz] at h
    obtain ⟨⟨hour, cs₂⟩, h₂, h⟩ := Option.bind_eq_some_iff.1 h
    obtain ⟨⟨colon, cs₃⟩, h₃, h⟩ := Option.bind_eq_some_iff.1 h
    obtain ⟨⟨minute, cs₄⟩, h₄, h⟩ := Option.bind_eq_some_iff.1 h
    by_cases hend : cs₄.isEmpty ∧ hour ≤ 23 ∧ minute ≤ 59
    · exact natural_ascii h₂ (oneOf_ascii (by decide) h₃ (natural_ascii h₄ (hnil hend.1)))
    · cases (if_neg hend).symm.trans h

theorem instant_ascii {q : ℚ} (h : instant cs = some q) : Ascii cs := by
  obtain ⟨⟨year, cs₁⟩, h₁, h⟩ := Option.bind_eq_some_iff.1 h
  obtain ⟨⟨_, cs₂⟩, h₂, h⟩ := Option.bind_eq_some_iff.1 h
  obtain ⟨⟨month, cs₃⟩, h₃, h⟩ := Option.bind_eq_some_iff.1 h
  obtain ⟨⟨_, cs₄⟩, h₄, h⟩ := Option.bind_eq_some_iff.1 h
  obtain ⟨⟨day, cs₅⟩, h₅, h⟩ := Option.bind_eq_some_iff.1 h
  obtain ⟨⟨_, cs₆⟩, h₆, h⟩ := Option.bind_eq_some_iff.1 h
  obtain ⟨⟨hour, cs₇⟩, h₇, h⟩ := Option.bind_eq_some_iff.1 h
  obtain ⟨⟨_, cs₈⟩, h₈, h⟩ := Option.bind_eq_some_iff.1 h
  obtain ⟨⟨minute, cs₉⟩, h₉, h⟩ := Option.bind_eq_some_iff.1 h
  obtain ⟨⟨_, cs₁₀⟩, h₁₀, h⟩ := Option.bind_eq_some_iff.1 h
  obtain ⟨⟨second, cs₁₁⟩, h₁₁, h⟩ := Option.bind_eq_some_iff.1 h
  obtain ⟨⟨frac, cs₁₂⟩, h₁₂, h⟩ := Option.bind_eq_some_iff.1 h
  obtain ⟨zone, hzone, -⟩ := Option.bind_eq_some_iff.1 h
  have htime := natural_ascii h₉ <| oneOf_ascii (by decide) h₁₀ <| natural_ascii h₁₁ <|
    fraction_ascii h₁₂ (offset_ascii hzone)
  have hhour := oneOf_ascii (by decide) h₆ <| natural_ascii h₇ <| oneOf_ascii (by decide) h₈ htime
  exact natural_ascii h₁ <| oneOf_ascii (by decide) h₂ <| natural_ascii h₃ <|
    oneOf_ascii (by decide) h₄ <| natural_ascii h₅ hhour

end Ascii

end ArchiDeal.Rfc3339
