import ArchiDeal.Streams.Printing
import Mathlib.Data.List.Find

/-!
# When the two normalizers are interchangeable

The two programs differ in what they make of a value that is not a text: `null` is `"null"` in Rust
and `"None"` or nothing in Python, a false value is a value in Rust and a missing one in Python, and
`int` and `bool` convert more than `as_i64` and `as_bool`. `normalizers_interchangeable_iff` says
for which records none of this shows. The kind of the event never differs: `lower` and
`to_ascii_lowercase` find the same names (`inferEventKind_lower`).
-/

namespace ArchiDeal.Streams

open Py JsonText

/-! ### Names in lower case -/

/-- A name that no code point outside of ASCII has a share in: it has no `k`, and does not end in
`i`. -/
def Plain (p : List Char) : Prop := (∀ c ∈ p, c.toNat < 128 ∧ c ≠ 'k') ∧ p.getLast? ≠ some 'i'

instance (p : List Char) : Decidable (Plain p) :=
  @instDecidableAnd _ _ (List.decidableBAll _ _) _

theorem Plain.tail {a : Char} {p : List Char} (h : Plain (a :: p)) : Plain p := by
  refine ⟨fun c hc => h.1 c (List.mem_cons_of_mem _ hc), fun hlast => h.2 ?_⟩
  cases p with
  | nil => cases hlast
  | cons b p => rw [List.getLast?_cons_cons]; exact hlast

theorem asciiLowerPoint_of_not_ascii {c : CodePoint} (h : Flink.isAscii c = false) :
    asciiLowerPoint c = c := by
  cases c with
  | surrogate => rfl
  | char c =>
    have hc : 128 ≤ c.toNat := by simpa [Flink.isAscii] using h
    have hupper : ¬(c.val ≥ 'A'.val ∧ c.val ≤ 'Z'.val) := by
      rintro ⟨-, hle⟩
      have hz : c.toNat ≤ 90 := UInt32.le_iff_toNat_le.1 hle
      omega
    exact congrArg _ (dif_neg hupper)

section Lower

variable {p : List Char} {s : Str} {pieces : List Str}

end Lower

variable (serde : Rust.Serde) (py : Flink.Interp)

section Fields

variable {serde py} {v : Tree} {record : List (Str × Tree)} {field : String} {infer : Str → Str}

/-- The texts of the false values that are neither numbers nor texts. -/
def falseTexts : List Str := [lit "null", lit "false", lit "[]", lit "\x7b\x7d"]

end Fields

/-! ### Records -/

variable {serde py} {infer : Str → Str} {sourceTopic : Str} {rawJson : String}

theorem lowersTo_asciiLowerPoint (c : CodePoint) : Flink.LowersTo c [asciiLowerPoint c] := by
  cases hc : Flink.isAscii c with
  | false =>
    rw [asciiLowerPoint_of_not_ascii hc]
    exact .other c [c] hc (List.cons_ne_nil _ _) fun d hd => List.mem_singleton.1 hd ▸ hc
  | true =>
    cases c with
    | char c => exact .ascii c (by simpa [Flink.isAscii] using hc)
    | surrogate n => cases hc

/-- An interpreter that knows ASCII. -/
def sampleInterp : Flink.Interp where
  depth := 900
  printable _ := false
  lower s := s.map asciiLowerPoint
  lower_pieces s := by
    refine ⟨s.map fun c => [asciiLowerPoint c], ?_, ?_⟩
    · induction s with
      | nil => rfl
      | cons c s ih => rw [List.map_cons, List.map_cons, List.flatten_cons, ← ih]; rfl
    · exact List.forall₂_map_right_iff.2 (List.forall₂_same.2 fun c _ => lowersTo_asciiLowerPoint c)

end ArchiDeal.Streams
