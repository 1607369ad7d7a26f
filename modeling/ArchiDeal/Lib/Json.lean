import ArchiDeal.Lib.Text
import Mathlib.Algebra.GroupWithZero.Nat
import Mathlib.Algebra.Ring.Int.Defs
import Mathlib.Data.List.Sort

/-!
# JSON values

The values of Python's `json` module and its writer. An object is the list of its members in
insertion order, as a Python `dict` is; a reader never sees a duplicate key (`Json.WF`). An
integer is unbounded. A float is kept as the literal it is written with: nothing here computes
with floats, and the only question asked of one is whether it equals an integer.

* `dumps`: the text of `json.dumps(v, ensure_ascii=False, separators=(",", ":"))`;
* `canonical`: the same with `sort_keys=True`.
-/

namespace ArchiDeal

open Text

/-! ### Number literals -/

namespace Number

/-- `0|[1-9][0-9]*`: the numeral at the front of a text, and what follows it. -/
def scanNat : List Char → Option (List Char × List Char)
  | [] => none
  | c :: cs =>
    if c = '0' then some (['0'], cs)
    else if digit c then some (c :: cs.takeWhile digit, cs.dropWhile digit)
    else none

/-- `-?(?:0|[1-9][0-9]*)`. -/
def scanInt : List Char → Option (List Char × List Char)
  | '-' :: cs => (scanNat cs).map fun p => ('-' :: p.1, p.2)
  | cs => scanNat cs

/-- `(\.[0-9]+)?`. -/
def scanFraction : List Char → List Char × List Char
  | '.' :: cs =>
    if (cs.takeWhile digit).isEmpty then ([], '.' :: cs)
    else ('.' :: cs.takeWhile digit, cs.dropWhile digit)
  | cs => ([], cs)

/-- `[-+]?[0-9]+`. -/
def scanSigned : List Char → List Char × List Char
  | c :: cs =>
    if c = '-' ∨ c = '+' then
      if (cs.takeWhile digit).isEmpty then ([], c :: cs)
      else (c :: cs.takeWhile digit, cs.dropWhile digit)
    else ((c :: cs).takeWhile digit, (c :: cs).dropWhile digit)
  | [] => ([], [])

/-- `([eE][-+]?[0-9]+)?`. -/
def scanExponent : List Char → List Char × List Char
  | c :: cs =>
    if c = 'e' ∨ c = 'E' then
      if (scanSigned cs).1.isEmpty then ([], c :: cs)
      else (c :: (scanSigned cs).1, (scanSigned cs).2)
    else ([], c :: cs)
  | [] => ([], [])

/-- The three parts of the number literal at the front of a text, and what follows it. -/
def scan (cs : List Char) : Option ((List Char × List Char × List Char) × List Char) :=
  (scanInt cs).map fun p =>
    let q := scanFraction p.2
    let r := scanExponent q.2
    ((p.1, q.1, r.1), r.2)

def intValue : List Char → ℤ
  | '-' :: cs => -(Nat.ofDigitChars 10 cs 0 : ℤ)
  | cs => Nat.ofDigitChars 10 cs 0

/-- The value of the digits after an `e`, with an optional sign. -/
def exponentValue : List Char → ℤ
  | _ :: '+' :: cs => intValue cs
  | _ :: cs => intValue cs
  | [] => 0

end Number

/-- A literal that Python reads as a float: it has a fraction or an exponent. -/
structure FloatLit where
  text : String
  ok : (Number.scan text.toList).any
    (fun p => p.2.isEmpty && !(p.1.2.1.isEmpty && p.1.2.2.isEmpty)) = true
  deriving DecidableEq

/-- Does the float equal the integer `n`? -/
def FloatLit.eqInt (f : FloatLit) (n : ℤ) : Bool :=
  match Number.scan f.text.toList with
  | none => false
  | some ((i, q, e), _) =>
    let m := Number.intValue (i ++ q.tail)
    let k := Number.exponentValue e - q.tail.length
    if 0 ≤ k then m * 10 ^ k.toNat == n else m == n * 10 ^ (-k).toNat

/-- A JSON value. -/
inductive Json where
  | null
  | bool (b : Bool)
  | int (n : ℤ)
  | float (f : FloatLit)
  | str (s : String)
  | arr (xs : List Json)
  | obj (kvs : List (String × Json))

namespace Json

mutual

/-- Decide whether two values are equal. -/
def decEq : (v w : Json) → Decidable (v = w)
  | .null, .null => isTrue rfl
  | .bool a, .bool b => decidable_of_iff (a = b) (by simp)
  | .int a, .int b => decidable_of_iff (a = b) (by simp)
  | .float a, .float b => decidable_of_iff (a = b) (by simp)
  | .str a, .str b => decidable_of_iff (a = b) (by simp)
  | .arr xs, .arr ys =>
    letI := decEqItems xs ys
    decidable_of_iff (xs = ys) (by simp)
  | .obj kvs, .obj lws =>
    letI := decEqMembers kvs lws
    decidable_of_iff (kvs = lws) (by simp)
  | .null, .bool _ | .null, .int _ | .null, .float _ | .null, .str _ | .null, .arr _
  | .null, .obj _ | .bool _, .null | .bool _, .int _ | .bool _, .float _ | .bool _, .str _
  | .bool _, .arr _ | .bool _, .obj _ | .int _, .null | .int _, .bool _ | .int _, .float _
  | .int _, .str _ | .int _, .arr _ | .int _, .obj _ | .float _, .null | .float _, .bool _
  | .float _, .int _ | .float _, .str _ | .float _, .arr _ | .float _, .obj _ | .str _, .null
  | .str _, .bool _ | .str _, .int _ | .str _, .float _ | .str _, .arr _ | .str _, .obj _
  | .arr _, .null | .arr _, .bool _ | .arr _, .int _ | .arr _, .float _ | .arr _, .str _
  | .arr _, .obj _ | .obj _, .null | .obj _, .bool _ | .obj _, .int _ | .obj _, .float _
  | .obj _, .str _ | .obj _, .arr _ => isFalse (by simp)

/-- Decide whether two lists of items are equal. -/
def decEqItems : (xs ys : List Json) → Decidable (xs = ys)
  | [], [] => isTrue rfl
  | x :: xs, y :: ys =>
    letI := decEq x y
    letI := decEqItems xs ys
    decidable_of_iff (x = y ∧ xs = ys) (by simp)
  | [], _ :: _ | _ :: _, [] => isFalse (by simp)

/-- Decide whether two lists of members are equal. -/
def decEqMembers : (kvs lws : List (String × Json)) → Decidable (kvs = lws)
  | [], [] => isTrue rfl
  | (k, v) :: kvs, (l, w) :: lws =>
    letI := decEq v w
    letI := decEqMembers kvs lws
    decidable_of_iff (k = l ∧ v = w ∧ kvs = lws) (by simp [and_assoc])
  | [], _ :: _ | _ :: _, [] => isFalse (by simp)

end

instance : DecidableEq Json := decEq

/-! ### Reading a value -/

/-- `isinstance(v, dict)`. -/
def isObj : Json → Bool
  | obj _ => true
  | _ => false

/-- `v.get(k)` of a `dict`. -/
def get? : Json → String → Option Json
  | obj kvs, k => kvs.lookup k
  | _, _ => none

/-- `set(v)` of a `dict`. -/
def keys : Json → List String
  | obj kvs => kvs.map Prod.fst
  | _ => []

/-- `bool(v)`. -/
def truthy : Json → Bool
  | null => false
  | bool b => b
  | int n => n != 0
  | float f => !f.eqInt 0
  | str s => s != ""
  | arr xs => !xs.isEmpty
  | obj kvs => !kvs.isEmpty

/-- `v == n` for an integer `n`; Python's `True` equals `1`, and `1.0` does. -/
def eqInt (v : Json) (n : ℤ) : Bool :=
  match v with
  | int m => m == n
  | bool b => (if b then 1 else 0) == n
  | float f => f.eqInt n
  | _ => false

/-- `v == s` for a string `s`. -/
def eqStr (v : Json) (s : String) : Bool :=
  match v with
  | str t => t == s
  | _ => false

/-- `v is True`. -/
def isTrue : Option Json → Bool
  | some (bool true) => true
  | _ => false

/-- `isinstance(v, dict) and not set(v) - ks`. -/
def within (v : Json) (ks : List String) : Bool := v.isObj && v.keys.all (ks.contains ·)

/-- `isinstance(v, dict) and set(v) == ks`. -/
def exactly (v : Json) (ks : List String) : Bool := v.within ks && ks.all (v.keys.contains ·)

@[simp] theorem isObj_obj (kvs : List (String × Json)) : (obj kvs).isObj = true := rfl

@[simp] theorem get?_obj (kvs : List (String × Json)) (k : String) :
    (obj kvs).get? k = kvs.lookup k := rfl

@[simp] theorem eqInt_int (m n : ℤ) : (int m).eqInt n = (m == n) := rfl

@[simp] theorem eqStr_str (s t : String) : (str s).eqStr t = (s == t) := rfl

/-- The strings of a list all of whose items are strings. -/
def strings : List Json → Option (List String)
  | [] => some []
  | str s :: xs => (strings xs).map (s :: ·)
  | _ :: _ => none

/-! ### Writing a value -/

/-- The hexadecimal digits of `\u` escapes are lower case. -/
def hexChar (n : ℕ) : Char := Nat.digitChar n

/-- One character of a string literal. -/
def escapeChar (c : Char) : List Char :=
  if c = '"' then ['\\', '"']
  else if c = '\\' then ['\\', '\\']
  else if c = '\n' then ['\\', 'n']
  else if c = '\r' then ['\\', 'r']
  else if c = '\t' then ['\\', 't']
  else if c.toNat = 8 then ['\\', 'b']
  else if c.toNat = 12 then ['\\', 'f']
  else if c.toNat < 32 then
    ['\\', 'u', '0', '0', hexChar (c.toNat / 16), hexChar (c.toNat % 16)]
  else [c]

/-- A string literal. -/
def quote (s : String) : List Char := '"' :: (s.toList.flatMap escapeChar ++ ['"'])

/-- An integer literal. -/
def intText : ℤ → List Char
  | .ofNat n => Nat.toDigits 10 n
  | .negSucc n => '-' :: Nat.toDigits 10 (n + 1)

mutual

/-- `json.dumps(v, ensure_ascii=False, separators=(",", ":"))`. -/
def dumps : Json → List Char
  | null => ['n', 'u', 'l', 'l']
  | bool true => ['t', 'r', 'u', 'e']
  | bool false => ['f', 'a', 'l', 's', 'e']
  | int n => intText n
  | float f => f.text.toList
  | str s => quote s
  | arr xs => '[' :: dumpsItems xs
  | obj kvs => '\x7b' :: dumpsMembers kvs

/-- The items of an array after its opening bracket, with the closing one. -/
def dumpsItems : List Json → List Char
  | [] => [']']
  | x :: xs => dumps x ++ dumpsMoreItems xs

/-- The items of an array after its first one. -/
def dumpsMoreItems : List Json → List Char
  | [] => [']']
  | x :: xs => ',' :: (dumps x ++ dumpsMoreItems xs)

/-- The members of an object after its opening brace, with the closing one. -/
def dumpsMembers : List (String × Json) → List Char
  | [] => ['\x7d']
  | (k, v) :: kvs => quote k ++ ':' :: (dumps v ++ dumpsMoreMembers kvs)

/-- The members of an object after its first one. -/
def dumpsMoreMembers : List (String × Json) → List Char
  | [] => ['\x7d']
  | (k, v) :: kvs => ',' :: (quote k ++ ':' :: (dumps v ++ dumpsMoreMembers kvs))

end

mutual

/-- `sort_keys=True`: the members of every object in the order of their keys. -/
def sortKeys : Json → Json
  | arr xs => arr (sortItems xs)
  | obj kvs => obj ((sortMembers kvs).insertionSort fun a b => Text.le a.1 b.1)
  | v => v

/-- `sortKeys` on the items of an array. -/
def sortItems : List Json → List Json
  | [] => []
  | x :: xs => sortKeys x :: sortItems xs

/-- `sortKeys` on the members of an object. -/
def sortMembers : List (String × Json) → List (String × Json)
  | [] => []
  | (k, v) :: kvs => (k, sortKeys v) :: sortMembers kvs

end

/-- `json.dumps(v, ensure_ascii=False, separators=(",", ":"), sort_keys=True).encode("utf-8")`. -/
def canonical (v : Json) : List UInt8 := Text.encode (dumps (sortKeys v))

end Json

end ArchiDeal
