import Mathlib.Data.List.Basic
import Mathlib.Tactic.Ring

/-!
# Framing

Numbers in groups of seven bits, and streams that are received in chunks.

* `encode`: the groups of a number, least significant first; every group but the last one has its
  high bit set;
* `encode_append_inj`, `length_encode_le`: the encoding is a prefix code, and its length;
* `Stream`, `recv`, `receiveExact`: a stream that hands out chunks of any size, and the loop that
  reassembles them;
* `receiveExact_append`: what the loop returns does not depend on the sizes of the chunks.
-/

namespace ArchiDeal.Framing

/-! ### Groups of seven bits -/

/-- The groups of a number. -/
def encode (n : ℕ) : List UInt8 :=
  if n / 128 = 0 then [UInt8.ofNat (n % 128)]
  else UInt8.ofNat (n % 128 ||| 0x80) :: encode (n / 128)
termination_by n
decreasing_by omega

theorem encode_of_lt {n : ℕ} (h : n < 128) : encode n = [UInt8.ofNat n] := by
  rw [encode, if_pos (by omega), Nat.mod_eq_of_lt h]

theorem encode_of_le {n : ℕ} (h : 128 ≤ n) :
    encode n = UInt8.ofNat (n % 128 ||| 0x80) :: encode (n / 128) := by
  rw [encode, if_neg (by omega)]

theorem last_group {n : ℕ} (h : n < 128) :
    (UInt8.ofNat n &&& 0x7F).toNat = n ∧ UInt8.ofNat n &&& 0x80 = 0 := by
  have hall : ∀ m : Fin 128, (UInt8.ofNat m &&& 0x7F).toNat = m ∧ UInt8.ofNat m &&& 0x80 = 0 := by
    decide +kernel
  exact hall ⟨n, h⟩

theorem inner_group {n : ℕ} (h : n < 128) :
    (UInt8.ofNat (n ||| 0x80) &&& 0x7F).toNat = n ∧ UInt8.ofNat (n ||| 0x80) &&& 0x80 ≠ 0 := by
  have hall : ∀ m : Fin 128, (UInt8.ofNat (m ||| 0x80) &&& 0x7F).toNat = m ∧
      UInt8.ofNat (m ||| 0x80) &&& 0x80 ≠ 0 := by
    decide +kernel
  exact hall ⟨n, h⟩

theorem length_encode_le {k n : ℕ} (hk : 0 < k) (h : n < 128 ^ k) : (encode n).length ≤ k := by
  induction k generalizing n with
  | zero => omega
  | succ k ih =>
    by_cases hn : n < 128
    · rw [encode_of_lt hn]
      exact hk
    · rw [encode_of_le (by omega), List.length_cons]
      have hk' : 0 < k := by
        by_contra hzero
        obtain rfl : k = 0 := by omega
        exact hn (by simpa using h)
      have hdiv : n / 128 < 128 ^ k := by
        rw [Nat.div_lt_iff_lt_mul (by decide), ← pow_succ]
        exact h
      exact Nat.succ_le_succ (ih hk' hdiv)

/-- **The encoding is a prefix code.** -/
theorem encode_append_inj {m n : ℕ} {r s : List UInt8} (h : encode m ++ r = encode n ++ s) :
    m = n ∧ r = s := by
  -- the groups are compared one after the other: the high bit says whether one more follows
  induction m using Nat.strong_induction_on generalizing n with
  | _ m ih =>
    by_cases hm : m < 128
    · rw [encode_of_lt hm] at h
      by_cases hn : n < 128
      · rw [encode_of_lt hn] at h
        obtain ⟨hbyte, hrest⟩ := List.cons.inj h
        exact ⟨by rw [← (last_group hm).1, hbyte, (last_group hn).1], hrest⟩
      · rw [encode_of_le (by omega)] at h
        obtain ⟨hbyte, -⟩ := List.cons.inj h
        exact absurd (hbyte ▸ (last_group hm).2) (inner_group (Nat.mod_lt n (by decide))).2
    · rw [encode_of_le (n := m) (by omega)] at h
      by_cases hn : n < 128
      · rw [encode_of_lt hn] at h
        obtain ⟨hbyte, -⟩ := List.cons.inj h
        exact absurd (hbyte ▸ (last_group hn).2) (inner_group (Nat.mod_lt m (by decide))).2
      · rw [encode_of_le (n := n) (by omega)] at h
        obtain ⟨hbyte, hrest⟩ := List.cons.inj h
        obtain ⟨hdiv, hrs⟩ := ih (m / 128) (by omega) hrest
        have hmod : m % 128 = n % 128 := by
          rw [← (inner_group (Nat.mod_lt m (by decide))).1, hbyte,
            (inner_group (Nat.mod_lt n (by decide))).1]
        exact ⟨by omega, hrs⟩

/-! ### Streams in chunks -/

section Streams

variable {α : Type}

/-- What is left of a stream that the other side closes at its end, and the number
of reads so far. -/
structure Stream (α : Type) where
  rest : List α
  reads : ℕ

/-- `recv(n)`: at least one item and at most `n`, as many as the transport has at hand; nothing
after the end. `sizes` says how many that are at each read. -/
def recv (sizes : ℕ → ℕ) (n : ℕ) (s : Stream α) : List α × Stream α :=
  let k := max 1 (min n (sizes s.reads))
  (s.rest.take k, ⟨s.rest.drop k, s.reads + 1⟩)

variable {sizes : ℕ → ℕ}

/-- Read until `length` items have arrived; `none` if the stream ends before. -/
def receiveExactFrom (sizes : ℕ → ℕ) (length : ℕ) (chunks : List α) (s : Stream α) :
    Option (List α × Stream α) :=
  if chunks.length < length then
    if (recv sizes (length - chunks.length) s).1 = [] then none
    else receiveExactFrom sizes length (chunks ++ (recv sizes (length - chunks.length) s).1)
      (recv sizes (length - chunks.length) s).2
  else some (chunks, s)
termination_by length - chunks.length
decreasing_by
  rename_i hlt hne
  have := List.length_pos_iff.2 hne
  simp only [List.length_append]
  omega

/-- `length` items of the stream. -/
def receiveExact (sizes : ℕ → ℕ) (length : ℕ) (s : Stream α) : Option (List α × Stream α) :=
  receiveExactFrom sizes length [] s

variable (sizes) in
/-- The loop completes what it has with the next items, whatever the chunks are. -/
theorem receiveExactFrom_append {length : ℕ} (chunks missing rest : List α) (reads : ℕ)
    (h : chunks.length + missing.length = length) :
    ∃ reads', receiveExactFrom sizes length chunks ⟨missing ++ rest, reads⟩ =
      some (chunks ++ missing, ⟨rest, reads'⟩) := by
  -- each read takes a non-empty part of what is missing
  induction hn : missing.length using Nat.strong_induction_on generalizing chunks missing reads with
  | _ n ih =>
    rw [receiveExactFrom]
    by_cases hmissing : missing = []
    · subst hmissing
      rw [if_neg (by simp only [List.length_nil] at h; omega)]
      exact ⟨reads, by simp⟩
    · have hpos := List.length_pos_iff.2 hmissing
      have hwanted : length - chunks.length = missing.length := by omega
      have hk : max 1 (min missing.length (sizes reads)) ≤ missing.length := by omega
      have hchunk : (recv sizes missing.length ⟨missing ++ rest, reads⟩).1 =
          missing.take (max 1 (min missing.length (sizes reads))) :=
        List.take_append_of_le_length hk
      have hleft : (recv sizes missing.length ⟨missing ++ rest, reads⟩).2 =
          ⟨missing.drop (max 1 (min missing.length (sizes reads))) ++ rest, reads + 1⟩ := by
        simp only [recv, List.drop_append_of_le_length hk]
      rw [if_pos (by omega), hwanted, hchunk, hleft, if_neg]
      · obtain ⟨reads', hreads'⟩ := ih
          (missing.drop (max 1 (min missing.length (sizes reads)))).length
          (by rw [List.length_drop]; omega)
          (chunks ++ missing.take (max 1 (min missing.length (sizes reads)))) _ (reads + 1)
          (by rw [List.length_append, List.length_take, List.length_drop]; omega) rfl
        refine ⟨reads', hreads'.trans ?_⟩
        rw [List.append_assoc, List.take_append_drop]
      · rw [List.take_eq_nil_iff, not_or]
        exact ⟨by omega, hmissing⟩

variable (sizes) in
/-- **Reassembly**: what is received does not depend on the chunks. -/
theorem receiveExact_append (items rest : List α) (reads : ℕ) :
    ∃ reads', receiveExact sizes items.length ⟨items ++ rest, reads⟩ =
      some (items, ⟨rest, reads'⟩) :=
  receiveExactFrom_append sizes [] items rest reads (Nat.zero_add _)

end Streams

end ArchiDeal.Framing
