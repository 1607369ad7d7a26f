import Mathlib.Data.List.Basic
import Mathlib.Data.String.Basic

/-!
# Python strings

The operations of Python's `str` that the modelled code uses, with Python's notion of whitespace
and of a line, and the character classes its regular expressions are built from. A string is a
sequence of Unicode scalar values; `len` counts them and `encode("utf-8")` has
`String.utf8ByteSize` bytes.
-/

namespace ArchiDeal.Text

/-! ### Whitespace -/

/-- `str.isspace` on one character. -/
def isSpace (c : Char) : Bool :=
  let n := c.toNat
  (9 ≤ n && n ≤ 13) || (28 ≤ n && n ≤ 32) || n == 0x85 || n == 0xa0 || n == 0x1680 ||
    (0x2000 ≤ n && n ≤ 0x200a) || n == 0x2028 || n == 0x2029 || n == 0x202f || n == 0x205f ||
    n == 0x3000

/-- `any(character.isspace() for character in s)`. -/
def hasSpace (s : String) : Bool := s.toList.any isSpace

/-- `s.strip()`. -/
def strip (s : String) : String :=
  String.ofList (((s.toList.dropWhile isSpace).reverse.dropWhile isSpace).reverse)

/-- The words of a text, read from its end: the first list is the word being read. -/
def wordsAux : List Char → List Char × List (List Char)
  | [] => ([], [])
  | c :: cs =>
    let (w, ws) := wordsAux cs
    if isSpace c then ([], if w.isEmpty then ws else w :: ws) else (c :: w, ws)

/-- `s.split()`. -/
def words (s : String) : List String :=
  let (w, ws) := wordsAux s.toList
  (if w.isEmpty then ws else w :: ws).map String.ofList

/-- `s[:n]`. -/
def take (n : ℕ) (s : String) : String := String.ofList (s.toList.take n)

/-- `" ".join(s.split())[:n]`. -/
def collapse (n : ℕ) (s : String) : String := take n (" ".intercalate (words s))

/-! ### Lines and bytes -/

/-- The characters that end a line for `str.splitlines`, other than `"\r\n"`. -/
def isLineBreak (c : Char) : Bool :=
  let n := c.toNat
  (10 ≤ n && n ≤ 13) || (28 ≤ n && n ≤ 30) || n == 0x85 || n == 0x2028 || n == 0x2029

/-- `len(s.splitlines())`, where `pending` says that an unfinished line has been read. -/
def lineCountAux (pending : Bool) : List Char → ℕ
  | [] => if pending then 1 else 0
  | '\r' :: '\n' :: cs => lineCountAux false cs + 1
  | c :: cs => if isLineBreak c then lineCountAux false cs + 1 else lineCountAux true cs

/-- `len(s.splitlines())`. -/
def lineCount (s : String) : ℕ := lineCountAux false s.toList

/-- `s.encode("utf-8")[:n].decode("utf-8", errors="ignore")`: the characters that lie wholly
within the first `n` bytes. -/
def takeBytes : ℕ → List Char → List Char
  | _, [] => []
  | n, c :: cs => if c.utf8Size ≤ n then c :: takeBytes (n - c.utf8Size) cs else []

/-- `s.encode("utf-8")`. -/
def encode (cs : List Char) : List UInt8 := cs.flatMap String.utf8EncodeChar

/-- The text of UTF-8 bytes. -/
def utf8 (bytes : List UInt8) : Option String := String.fromUTF8? bytes.toByteArray

/-- The lexicographic order of bytes. -/
def bytesLe : List UInt8 → List UInt8 → Bool
  | [], _ => true
  | _ :: _, [] => false
  | a :: as, b :: bs => if a.toNat = b.toNat then bytesLe as bs else decide (a.toNat < b.toNat)

/-- The order of strings by code points, which is that of their UTF-8 bytes. -/
def le (s t : String) : Bool := bytesLe s.toUTF8.data.toList t.toUTF8.data.toList

/-! ### Character classes and patterns -/

/-- `[0-9]`. -/
def digit (c : Char) : Bool := '0' ≤ c && c ≤ '9'

/-- The zeros of the decimal digits of Unicode 16. -/
def digitZeros : List ℕ :=
  [0x30, 0x660, 0x6f0, 0x7c0, 0x966, 0x9e6, 0xa66, 0xae6, 0xb66, 0xbe6, 0xc66, 0xce6, 0xd66,
   0xde6, 0xe50, 0xed0, 0xf20, 0x1040, 0x1090, 0x17e0, 0x1810, 0x1946, 0x19d0, 0x1a80, 0x1a90,
   0x1b50, 0x1bb0, 0x1c40, 0x1c50, 0xa620, 0xa8d0, 0xa900, 0xa9d0, 0xa9f0, 0xaa50, 0xabf0,
   0xff10, 0x104a0, 0x10d30, 0x10d40, 0x11066, 0x110f0, 0x11136, 0x111d0, 0x112f0, 0x11450,
   0x114d0, 0x11650, 0x116c0, 0x116d0, 0x116da, 0x11730, 0x118e0, 0x11950, 0x11bf0, 0x11c50,
   0x11d50, 0x11da0, 0x11f50, 0x16130, 0x16a60, 0x16ac0, 0x16b50, 0x16d70, 0x1ccf0, 0x1d7ce,
   0x1d7d8, 0x1d7e2, 0x1d7ec, 0x1d7f6, 0x1e140, 0x1e2f0, 0x1e4f0, 0x1e5f1, 0x1e950, 0x1fbf0]

/-- `\d`: the decimal digits of every script. -/
def decimalDigit (c : Char) : Bool := digitZeros.any fun z => z ≤ c.toNat && c.toNat < z + 10

/-- The digits that are not decimal digits: superscripts, subscripts, circled digits and others. -/
def otherDigits : List (ℕ × ℕ) :=
  [(0xb2, 0xb3), (0xb9, 0xb9), (0x1369, 0x1371), (0x19da, 0x19da), (0x2070, 0x2070),
    (0x2074, 0x2079), (0x2080, 0x2089), (0x2460, 0x2468), (0x2474, 0x247c), (0x2488, 0x2490),
    (0x24ea, 0x24ea), (0x24f5, 0x24fd), (0x24ff, 0x24ff), (0x2776, 0x277e), (0x2780, 0x2788),
    (0x278a, 0x2792), (0x10a40, 0x10a43), (0x10e60, 0x10e68), (0x11052, 0x1105a),
    (0x1f100, 0x1f10a)]

/-- `str.isdigit` of one character. -/
def isDigit (c : Char) : Bool :=
  decimalDigit c || otherDigits.any fun r => r.1 ≤ c.toNat && c.toNat ≤ r.2

/-- `[a-z0-9]`. -/
def lowerDigit (c : Char) : Bool := ('a' ≤ c && c ≤ 'z') || digit c

/-- `[0-9a-f]`. -/
def hexDigit (c : Char) : Bool := digit c || ('a' ≤ c && c ≤ 'f')

/-- `[A-Z]`. -/
def upper (c : Char) : Bool := 'A' ≤ c && c ≤ 'Z'

/-- `[A-Za-z0-9]`. -/
def alphaDigit (c : Char) : Bool := lowerDigit c || upper c

/-- `[first][rest]{lo,hi}`. -/
def headed (first rest : Char → Bool) (lo hi : ℕ) : List Char → Bool
  | [] => false
  | c :: cs => first c && cs.all rest && lo ≤ cs.length && cs.length ≤ hi

/-- `[edge](?:[inner]*[edge])?`. -/
def edged (edge inner : Char → Bool) : List Char → Bool
  | [] => false
  | c :: cs => edge c && (cs.isEmpty || (cs.dropLast.all inner && (cs.getLast?.any edge)))

/-- `[1-9][0-9]*`. -/
def positiveNumeral : List Char → Bool
  | [] => false
  | c :: cs => digit c && c != '0' && cs.all digit

/-- `[0-9a-f]{64}`. -/
def isHexDigest (s : String) : Bool := s.toList.length == 64 && s.toList.all hexDigit

/-- Python refuses to convert a numeral of more than 4300 digits with a `ValueError`, here
`none`. -/
def toInt (cs : List Char) : Option ℕ :=
  if cs.length ≤ 4300 then some (Nat.ofDigitChars 10 cs 0) else none

/-! ### Timestamps -/

/-- The digits of `n`, filled with zeros up to `width`. -/
def zfill (width n : ℕ) : String :=
  let ds := Nat.toDigits 10 n
  String.ofList (List.replicate (width - ds.length) '0' ++ ds)

/-- Year, month and day of a day of the Gregorian calendar, counted from 1970-01-01. -/
def civil (days : ℕ) : ℕ × ℕ × ℕ :=
  let z := days + 719468
  let doe := z % 146097
  let yoe := (doe - doe / 1460 + doe / 36524 - doe / 146096) / 365
  let doy := doe - (365 * yoe + yoe / 4 - yoe / 100)
  let mp := (5 * doy + 2) / 153
  let month := if mp < 10 then mp + 3 else mp - 9
  (yoe + z / 146097 * 400 + (if month ≤ 2 then 1 else 0), month, doy - (153 * mp + 2) / 5 + 1)

/-- `datetime.isoformat()` of the UTC instant `t` microseconds after the epoch. -/
def isoformat (t : ℕ) : String :=
  let (year, month, day) := civil (t / 86400000000)
  let s := t / 1000000
  zfill 4 year ++ "-" ++ zfill 2 month ++ "-" ++ zfill 2 day ++ "T" ++
    zfill 2 (s / 3600 % 24) ++ ":" ++ zfill 2 (s / 60 % 60) ++ ":" ++ zfill 2 (s % 60) ++
    (if t % 1000000 = 0 then "" else "." ++ zfill 6 (t % 1000000)) ++ "+00:00"

example : isoformat 1763251200000001 = "2025-11-16T00:00:00.000001+00:00" := by decide

end ArchiDeal.Text
