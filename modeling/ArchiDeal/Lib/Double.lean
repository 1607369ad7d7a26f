import Mathlib.Data.Nat.Log
import Mathlib.Data.Int.Order.Basic
import Mathlib.Tactic.Linarith

/-!
# Integers as doubles

An integer as the nearest `f64`, ties to even: integers below `2 ^ 53` are exact, and larger ones
keep 53 binary digits. Comparing with a small bound does not see the difference (`roundInt_le_iff`,
`le_roundInt_iff`).
-/

namespace ArchiDeal.Double

/-- The natural number with 53 binary digits that is nearest to `n`, ties to even. -/
def roundNat (n : ℕ) : ℕ :=
  if n < 2 ^ 53 then n
  else
    let unit := 2 ^ (Nat.log 2 n - 52)
    let q := n / unit
    let r := n % unit
    (if 2 * r < unit ∨ (2 * r = unit ∧ q % 2 = 0) then q else q + 1) * unit

/-- `n as f64`. -/
def roundInt (n : ℤ) : ℤ := if 0 ≤ n then roundNat n.toNat else -(roundNat (-n).toNat)

theorem roundNat_of_lt {n : ℕ} (h : n < 2 ^ 53) : roundNat n = n := if_pos h

theorem le_roundNat {n : ℕ} (h : 2 ^ 53 ≤ n) : 2 ^ 53 ≤ roundNat n := by
  have hn : n ≠ 0 := by
    rintro rfl
    exact absurd h (by decide)
  have hlog : 53 ≤ Nat.log 2 n := (Nat.le_log_iff_pow_le (by decide) hn).2 h
  have hpow : 2 ^ 52 * 2 ^ (Nat.log 2 n - 52) ≤ n := by
    rw [← pow_add, show 52 + (Nat.log 2 n - 52) = Nat.log 2 n by omega]
    exact Nat.pow_log_le_self 2 hn
  have hunit : 2 ≤ 2 ^ (Nat.log 2 n - 52) :=
    le_trans (by decide : 2 ≤ 2 ^ 1) (Nat.pow_le_pow_right (by decide) (by omega))
  have hq : 2 ^ 52 ≤ n / 2 ^ (Nat.log 2 n - 52) := (Nat.le_div_iff_mul_le (by omega)).2 hpow
  rw [roundNat, if_neg (by omega)]
  calc 2 ^ 53 = 2 ^ 52 * 2 := by decide
    _ ≤ 2 ^ 52 * 2 ^ (Nat.log 2 n - 52) := Nat.mul_le_mul_left _ hunit
    _ ≤ _ := Nat.mul_le_mul_right _ (by split_ifs <;> omega)

/-- Below `2 ^ 53` nothing is rounded; from there on the result is at least as large. -/
theorem roundNat_cases (n : ℕ) : roundNat n = n ∨ (2 ^ 53 ≤ n ∧ 2 ^ 53 ≤ roundNat n) := by
  rcases Nat.lt_or_ge n (2 ^ 53) with h | h
  · exact .inl (roundNat_of_lt h)
  · exact .inr ⟨h, le_roundNat h⟩

theorem roundInt_cases (n : ℤ) : roundInt n = n ∨ (2 ^ 53 ≤ n ∧ 2 ^ 53 ≤ roundInt n) ∨
    (n ≤ -2 ^ 53 ∧ roundInt n ≤ -2 ^ 53) := by
  unfold roundInt
  split_ifs with hn
  · rcases roundNat_cases n.toNat with h | ⟨h, h'⟩
    · exact .inl (by omega)
    · exact .inr (.inl ⟨by omega, by omega⟩)
  · rcases roundNat_cases (-n).toNat with h | ⟨h, h'⟩
    · exact .inl (by omega)
    · exact .inr (.inr ⟨by omega, by omega⟩)

variable {n b : ℤ}

/-- Rounding does not change a comparison with a small upper bound. -/
theorem roundInt_le_iff (hb : |b| < 2 ^ 53) : roundInt n ≤ b ↔ n ≤ b := by
  obtain ⟨hlo, hhi⟩ := abs_lt.1 hb
  rcases roundInt_cases n with h | ⟨h, h'⟩ | ⟨h, h'⟩ <;> omega

/-- Rounding does not change a comparison with a small lower bound. -/
theorem le_roundInt_iff (hb : |b| < 2 ^ 53) : b ≤ roundInt n ↔ b ≤ n := by
  obtain ⟨hlo, hhi⟩ := abs_lt.1 hb
  rcases roundInt_cases n with h | ⟨h, h'⟩ | ⟨h, h'⟩ <;> omega

end ArchiDeal.Double
