import ArchiDeal.Lib.Json

/-!
# Serializer fields

The conversions of Python and of the fields of Django REST framework from JSON values. A field
returns `none` where the framework answers with a validation error. Python's arithmetic of floats is
the parameter `FloatText`.
-/

namespace ArchiDeal.Fields

open Text

/-! ### Python's conversions -/

/-- How Python converts a float that it has read. -/
structure FloatText where
  str : FloatLit → String
  /-- `int(f)`; `none` for an infinite float, which raises an `OverflowError`. -/
  int : FloatLit → Option ℤ

/-- The value of a decimal digit of any script. -/
def digitValue (c : Char) : Option ℕ :=
  (digitZeros.find? fun z => z ≤ c.toNat && c.toNat < z + 10).map fun z => c.toNat - z

/-- The value of digits with single underscores between them; `acc` is what has been read, and
`start` says that a digit has to follow. -/
def digitsValue (start : Bool) (acc : ℕ) : List Char → Option ℕ
  | [] => if start then none else some acc
  | '_' :: cs => if start then none else digitsValue true acc cs
  | c :: cs => (digitValue c).bind fun d => digitsValue false (acc * 10 + d) cs

/-- `int` of a text without sign; more than 4300 digits are refused. -/
def pyNat (cs : List Char) : Option ℕ :=
  if (cs.filter (· != '_')).length ≤ 4300 then digitsValue true 0 cs else none

/-- `int(s)` of a string; `none` is a `ValueError`. -/
def pyInt (s : String) : Option ℤ :=
  match (strip s).toList with
  | '-' :: cs => (pyNat cs).map fun n => -(n : ℤ)
  | '+' :: cs => (pyNat cs).map Int.ofNat
  | cs => (pyNat cs).map Int.ofNat

variable (py : FloatText)

/-- `str(v)` of a scalar; a list or an object is written by the parameter `repr`. -/
def pyStr (repr : Json → String) : Json → String
  | .null => "None"
  | .bool true => "True"
  | .bool false => "False"
  | .int n => String.ofList (Json.intText n)
  | .float f => py.str f
  | .str s => s
  | v => repr v

/-! ### Fields -/

/-- `BooleanField.TRUE_VALUES`, of strings in lower case. -/
def trueTexts : List String := ["t", "y", "yes", "true", "on", "1"]

/-- `BooleanField.FALSE_VALUES`, of strings in lower case. -/
def falseTexts : List String := ["f", "n", "no", "false", "off", "0"]

/-- `BooleanField`; `lower` is `str.lower`. -/
def booleanField (lower : String → String) : Json → Option Bool
  | .bool b => some b
  | .int n => if n = 1 then some true else if n = 0 then some false else none
  | .float f => if f.eqInt 1 then some true else if f.eqInt 0 then some false else none
  | .str s =>
    if lower s ∈ trueTexts then some true else if lower s ∈ falseTexts then some false else none
  | _ => none

/-- `CharField(max_length=maxLength, allow_blank=blank)`. -/
def charField (maxLength : ℕ) (blank : Bool) (v : Json) : Option String :=
  let check (s : String) : Option String :=
    let value := strip s
    if value.toList.isEmpty then if blank then some "" else none
    else if value.toList.length ≤ maxLength && !value.toList.contains '\x00' then some value
    else none
  match v with
  | .str s => check s
  | .int n => check (String.ofList (Json.intText n))
  | .float f => check (py.str f)
  | _ => none

/-- `^[-a-zA-Z0-9_]+\Z`. -/
def isSlug (s : String) : Bool :=
  !s.toList.isEmpty && s.toList.all fun c => alphaDigit c || c == '-' || c == '_'

/-- `SlugField(max_length=maxLength)`. -/
def slugField (maxLength : ℕ) (v : Json) : Option String :=
  (charField py maxLength false v).filter isSlug

/-- `re.sub(r"\.0*\s*$", "", s)`: the text without a fraction of zeros at its end. -/
def dropZeroFraction (s : String) : String :=
  let body := (s.toList.reverse.dropWhile isSpace).dropWhile (· == '0')
  match body with
  | '.' :: cs => String.ofList cs.reverse
  | _ => s

/-- `IntegerField(min_value=lo, max_value=hi)`. -/
def integerField (lo hi : ℤ) (v : Json) : Option ℤ :=
  let check (s : String) : Option ℤ :=
    (pyInt (dropZeroFraction s)).filter fun n => lo ≤ n && n ≤ hi
  match v with
  | .str s => if s.toList.length ≤ 1000 then check s else none
  | .int n => check (String.ofList (Json.intText n))
  | .float f => check (py.str f)
  | _ => none

/-- A field that accepts `null`. -/
def nullable {α : Type} (field : Json → Option α) : Json → Option (Option α)
  | .null => some none
  | v => (field v).map some

/-- `ChoiceField(choices)`, of texts. -/
def choiceField (choices : List String) (v : Json) : Option String :=
  match v with
  | .str s => if s ∈ choices then some s else none
  | _ => none

/-- The value of a field that the body may leave out: `none` is a validation error. -/
def optional {α : Type} (body : Json) (name : String) (field : Json → Option α) :
    Option (Option α) :=
  match body.get? name with
  | none => some none
  | some v => (field v).map some

end ArchiDeal.Fields
