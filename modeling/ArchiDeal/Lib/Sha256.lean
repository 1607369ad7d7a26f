import ArchiDeal.Lib.Text
import Mathlib.Data.Fintype.Pigeonhole
import Mathlib.Data.Fintype.BigOperators

/-!
# SHA-256

`hashlib.sha256(b).hexdigest()`. Words are natural numbers below `2 ^ 32`; the message schedule is
a window of sixteen words, packed into one number, that slides by one word in every round.
-/

namespace ArchiDeal.Sha256

def roundConstants : List ℕ :=
  [0x428a2f98, 0x71374491, 0xb5c0fbcf, 0xe9b5dba5, 0x3956c25b, 0x59f111f1, 0x923f82a4,
   0xab1c5ed5, 0xd807aa98, 0x12835b01, 0x243185be, 0x550c7dc3, 0x72be5d74, 0x80deb1fe,
   0x9bdc06a7, 0xc19bf174, 0xe49b69c1, 0xefbe4786, 0x0fc19dc6, 0x240ca1cc, 0x2de92c6f,
   0x4a7484aa, 0x5cb0a9dc, 0x76f988da, 0x983e5152, 0xa831c66d, 0xb00327c8, 0xbf597fc7,
   0xc6e00bf3, 0xd5a79147, 0x06ca6351, 0x14292967, 0x27b70a85, 0x2e1b2138, 0x4d2c6dfc,
   0x53380d13, 0x650a7354, 0x766a0abb, 0x81c2c92e, 0x92722c85, 0xa2bfe8a1, 0xa81a664b,
   0xc24b8b70, 0xc76c51a3, 0xd192e819, 0xd6990624, 0xf40e3585, 0x106aa070, 0x19a4c116,
   0x1e376c08, 0x2748774c, 0x34b0bcb5, 0x391c0cb3, 0x4ed8aa4a, 0x5b9cca4f, 0x682e6ff3,
   0x748f82ee, 0x78a5636f, 0x84c87814, 0x8cc70208, 0x90befffa, 0xa4506ceb, 0xbef9a3f7,
   0xc67178f2]

/-- The eight working words. -/
structure State where
  a : ℕ
  b : ℕ
  c : ℕ
  d : ℕ
  e : ℕ
  f : ℕ
  g : ℕ
  h : ℕ

/-- The initial hash value. -/
def initial : State :=
  ⟨0x6a09e667, 0xbb67ae85, 0x3c6ef372, 0xa54ff53a, 0x510e527f, 0x9b05688c, 0x1f83d9ab, 0x5be0cd19⟩

/-- Rotate a word right. -/
def rotr (k x : ℕ) : ℕ := (x >>> k ||| x <<< (32 - k)) % 2 ^ 32

/-- The schedule functions of the two earlier words. -/
def sigma0 (x : ℕ) : ℕ := rotr 7 x ^^^ rotr 18 x ^^^ x >>> 3

@[inherit_doc sigma0]
def sigma1 (x : ℕ) : ℕ := rotr 17 x ^^^ rotr 19 x ^^^ x >>> 10

/-- One round on the word `w` with the constant `k`. -/
def round (s : State) (k w : ℕ) : State :=
  let s1 := rotr 6 s.e ^^^ rotr 11 s.e ^^^ rotr 25 s.e
  let ch := (s.e &&& s.f) ^^^ ((2 ^ 32 - 1 - s.e) &&& s.g)
  let t1 := s.h + s1 + ch + k + w
  let s0 := rotr 2 s.a ^^^ rotr 13 s.a ^^^ rotr 22 s.a
  let maj := (s.a &&& s.b) ^^^ (s.a &&& s.c) ^^^ (s.b &&& s.c)
  ⟨(t1 + s0 + maj) % 2 ^ 32, s.a, s.b, s.c, (s.d + t1) % 2 ^ 32, s.e, s.f, s.g⟩

/-- Pack words into one number, the first word lowest. -/
def pack : List ℕ → ℕ
  | [] => 0
  | w :: ws => w + pack ws <<< 32

/-- Word `i` of the window. -/
def word (window i : ℕ) : ℕ := window >>> (32 * i) % 2 ^ 32

/-- Slide the window of the schedule by one word. -/
def slide (window : ℕ) : ℕ :=
  window >>> 32 + ((sigma1 (word window 14) + word window 9 + sigma0 (word window 1) +
    word window 0) % 2 ^ 32) <<< 480

/-- All rounds of one block. -/
def rounds : List ℕ → State → ℕ → State
  | [], s, _ => s
  | k :: ks, s, window => rounds ks (round s k (word window 0)) (slide window)

/-- Absorb one block of sixteen words. -/
def compress (s : State) (block : List ℕ) : State :=
  let t := rounds roundConstants s (pack block)
  ⟨(s.a + t.a) % 2 ^ 32, (s.b + t.b) % 2 ^ 32, (s.c + t.c) % 2 ^ 32, (s.d + t.d) % 2 ^ 32,
    (s.e + t.e) % 2 ^ 32, (s.f + t.f) % 2 ^ 32, (s.g + t.g) % 2 ^ 32, (s.h + t.h) % 2 ^ 32⟩

/-- The message, a one bit, zeros up to a whole number of blocks, and the length in bits. -/
def pad (msg : List ℕ) : List ℕ :=
  msg ++ 0x80 :: (List.replicate ((119 - msg.length % 64) % 64) 0 ++
    (List.range 8).map fun i => (8 * msg.length) >>> (56 - 8 * i) % 256)

/-- Big-endian words of a list of bytes. -/
def toWords : List ℕ → List ℕ
  | a :: b :: c :: d :: rest => (a <<< 24 + b <<< 16 + c <<< 8 + d) :: toWords rest
  | _ => []

/-- Absorb all blocks, at most `fuel` of them. -/
def absorb : ℕ → State → List ℕ → State
  | 0, s, _ => s
  | fuel + 1, s, ws => if ws.isEmpty then s else absorb fuel (compress s (ws.take 16)) (ws.drop 16)

/-- The eight hexadecimal digits of a word. -/
def hexWord (n : ℕ) : List Char :=
  (List.range 8).map fun i => Nat.digitChar (n >>> (28 - 4 * i) % 16)

/-- The digits of the final hash value. -/
def hexState (s : State) : List Char :=
  [s.a, s.b, s.c, s.d, s.e, s.f, s.g, s.h].flatMap hexWord

/-- `hashlib.sha256(bytes).hexdigest()`. -/
def hexdigest (bytes : List UInt8) : String :=
  let ws := toWords (pad (bytes.map UInt8.toNat))
  String.ofList (hexState (absorb ws.length initial ws))

theorem length_hexState (s : State) : (hexState s).length = 64 := by
  simp [hexState, hexWord]

theorem exists_digit_of_mem_hexState {s : State} {c : Char} (h : c ∈ hexState s) :
    ∃ i : Fin 16, c = Nat.digitChar i := by
  simp only [hexState, List.mem_flatMap, hexWord, List.mem_map] at h
  obtain ⟨w, -, i, -, rfl⟩ := h
  exact ⟨⟨_, Nat.mod_lt _ (by decide)⟩, rfl⟩

theorem hexDigit_of_mem_hexState {s : State} {c : Char} (h : c ∈ hexState s) :
    Text.hexDigit c = true := by
  have hdigit : ∀ i : Fin 16, Text.hexDigit (Nat.digitChar i) = true := by decide
  obtain ⟨i, rfl⟩ := exists_digit_of_mem_hexState h
  exact hdigit i

theorem isHexDigest_hexdigest (b : List UInt8) : Text.isHexDigest (hexdigest b) = true := by
  simp only [Text.isHexDigest, hexdigest, String.toList_ofList, length_hexState, beq_self_eq_true,
    Bool.true_and, List.all_eq_true]
  intro c hc
  exact hexDigit_of_mem_hexState hc

example : hexdigest [0x61, 0x62, 0x63] =
    "ba7816bf8f01cfea414140de5dae2223b00361a396177a9cb410ff61f20015ad" := by decide +kernel

/-- The text with the given hexadecimal digits. -/
def ofDigits {n : ℕ} (v : List.Vector (Fin 16) n) : String :=
  String.ofList (v.toList.map fun i : Fin 16 => Nat.digitChar i)

theorem ofDigits_injective {n : ℕ} {v w : List.Vector (Fin 16) n} (h : ofDigits v = ofDigits w) :
    v = w := by
  have hdigit : Function.Injective fun i : Fin 16 => Nat.digitChar i := by decide
  exact List.Vector.eq v w (List.map_injective_iff.2 hdigit (String.ofList_injective h))

theorem exists_ofDigits (b : List UInt8) :
    ∃ v : List.Vector (Fin 16) 64, hexdigest b = ofDigits v := by
  have hdigits : ∀ cs : List Char, (∀ c ∈ cs, ∃ i : Fin 16, c = Nat.digitChar i) →
      ∃ l : List (Fin 16), cs = l.map fun i : Fin 16 => Nat.digitChar i := by
    intro cs hcs
    induction cs with
    | nil => exact ⟨[], rfl⟩
    | cons c cs ih =>
      rw [List.forall_mem_cons] at hcs
      obtain ⟨i, rfl⟩ := hcs.1
      obtain ⟨l, rfl⟩ := ih hcs.2
      exact ⟨i :: l, rfl⟩
  obtain ⟨l, hl⟩ := hdigits _ fun c => exists_digit_of_mem_hexState
  refine ⟨⟨l, ?_⟩, congrArg String.ofList hl⟩
  rw [← List.length_map (fun i : Fin 16 => Nat.digitChar i), ← hl, length_hexState]

/-- **Collisions exist.** Of more than `16 ^ 64` messages two have the same digest. -/
theorem exists_collision {α : Type} [Fintype α] (h : 16 ^ 64 < Fintype.card α)
    (message : α → List UInt8) :
    ∃ a b, a ≠ b ∧ hexdigest (message a) = hexdigest (message b) := by
  choose digits hdigits using fun a => exists_ofDigits (message a)
  obtain ⟨a, b, hne, heq⟩ := Fintype.exists_ne_map_eq_of_card_lt digits (by simpa using h)
  exact ⟨a, b, hne, by rw [hdigits, hdigits, heq]⟩

end ArchiDeal.Sha256
