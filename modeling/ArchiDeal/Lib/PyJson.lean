import ArchiDeal.Lib.JsonReader

/-!
# Strings as Python holds them

`json.loads` accepts escapes that stand for half of a surrogate pair, so that a Python string is a
sequence of code points and not of characters.
-/

namespace ArchiDeal.Py

/-- A code point: a character, or a surrogate that is not part of a pair. -/
inductive CodePoint
  | char (c : Char)
  | surrogate (n : Fin 2048)
  deriving DecidableEq

abbrev Str := List CodePoint

/-- The string with the characters of a text. -/
def Str.ofString (s : String) : Str := s.toList.map .char

/-- The character at a code point. -/
def CodePoint.char? : CodePoint → Option Char
  | .char c => some c
  | .surrogate _ => none

def CodePoint.toNat : CodePoint → ℕ
  | .char c => c.toNat
  | .surrogate n => 0xd800 + n

/-- The text of a string without surrogates. -/
def Str.text? (s : Str) : Option String := (s.mapM CodePoint.char?).map String.ofList

theorem mapM_char? (cs : List Char) : (cs.map CodePoint.char).mapM CodePoint.char? = some cs := by
  induction cs with
  | nil => rfl
  | cons c cs ih => simp [CodePoint.char?, ih]

@[simp] theorem Str.text?_ofString (s : String) : (Str.ofString s).text? = some s := by
  rw [Str.ofString, Str.text?, mapM_char?, Option.map_some, String.ofList_toList]

end ArchiDeal.Py
