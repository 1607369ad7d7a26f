import ArchiDeal.Events.Contracts
import ArchiDeal.Lib.JsonOrder

/-!
# Where the two validators agree

After the required and the allowed fields, both validators go through one list of checks in the same
order and report those that fail (`validateEvent_rust`, `validateEvent_python`). The messages of the
checks are different from each other, so that the two reports are equal exactly if every check has
the same outcome in both languages. `validators_agree_iff` says for which events that is.
-/

namespace ArchiDeal.Events

open Text

variable {double : FloatLit → ℚ} {e : Event} {topic : String}

/-! ### Sorted names -/

/-- Sorted lists of names without duplicates are equal if they have the same names. -/
theorem eq_of_sorted {l l' : List String} (h : l.Pairwise fun a b => le a b = true)
    (h' : l'.Pairwise fun a b => le a b = true) (hl : l.Nodup) (hl' : l'.Nodup)
    (hmem : ∀ a, a ∈ l ↔ a ∈ l') : l = l' :=
  List.Perm.eq_of_pairwise (fun _ _ _ _ hab hba => Text.le_antisymm hab hba) h h'
    ((List.perm_ext_iff_of_nodup hl hl').2 hmem)

theorem sorted_mergeSort (l : List String) :
    (l.mergeSort le).Pairwise fun a b => le a b = true := by
  have htrans : ∀ a b c : String, le a b = true → le b c = true → le a c = true :=
    fun _ _ _ hab hbc => bytesLe_trans hab hbc
  have htotal : ∀ a b : String, (le a b || le b a) = true := fun a b =>
    (Bool.or_eq_true _ _).mpr (bytesLe_total _ _)
  exact List.pairwise_mergeSort htrans htotal l

theorem nodup_sortedKeys (e : Event) : (Rust.sortedKeys e).Nodup :=
  (List.mergeSort_perm _ _).nodup_iff.2 e.nodup

theorem sortedIntersection_eq {fields : List String}
    (hsorted : fields.Pairwise fun a b => le a b = true) (hnodup : fields.Nodup) :
      Rust.sortedIntersection e fields = Python.present e fields := by
  refine eq_of_sorted ((sorted_mergeSort _).filter _) (hsorted.filter _)
    ((nodup_sortedKeys e).filter _) (hnodup.filter _) fun a => ?_
  simp only [Rust.sortedIntersection, Rust.sortedKeys, Python.present, List.mem_filter,
    List.mem_mergeSort, decide_eq_true_eq]
  exact and_comm

theorem filter_sortedKeys (p : String → Bool) :
    (Rust.sortedKeys e).filter p = (e.keys.filter p).mergeSort le := by
  refine eq_of_sorted ((sorted_mergeSort _).filter _) (sorted_mergeSort _)
    ((nodup_sortedKeys e).filter _) ((List.mergeSort_perm _ _).nodup_iff.2 (e.nodup.filter _))
    fun a => ?_
  simp only [Rust.sortedKeys, List.mem_filter, List.mem_mergeSort]

theorem mem_keys_of_get? {field : String} {v : Json} (h : e.get? field = some v) :
    field ∈ e.keys := by
  have hmem := (Json.lookup_eq_some_of_nodup e.nodup).1 h
  exact List.mem_map_of_mem hmem

theorem filter_present (fields : List String) (p : Json → Bool) :
    (Python.present e fields).filter (fun field => (e.get? field).any p) =
      fields.filter fun field => (e.get? field).any p := by
  rw [Python.present, List.filter_filter]
  refine List.filter_congr fun field _ => ?_
  cases hv : e.get? field with
  | none => simp
  | some v => simp [mem_keys_of_get? hv]

/-! ### The checks -/

/-- A check after the required and the allowed fields. -/
inductive Check where
  | string (field : String)
  | integer (field : String)
  | number (field : String)
  | payload
  | tags
  | retain
  | latitude
  | longitude
  | heading
  | nonNegative (field : String)
  | positive (field : String)
  | eventId
  | schemaVersion
  deriving DecidableEq

def Check.message : Check → String
  | .string field => "field must be a string: " ++ field
  | .integer field => "field must be an integer: " ++ field
  | .number field => "field must be numeric: " ++ field
  | .payload => "field must be an object: payload"
  | .tags => "field must be an object: tags"
  | .retain => "field must be a boolean: retain"
  | .latitude => "latitude out of range: -90..90"
  | .longitude => "longitude out of range: -180..180"
  | .heading => "heading_deg out of range: 0..360"
  | .nonNegative field => field ++ " must be non-negative"
  | .positive field => field ++ " must be positive"
  | .eventId => "event_id must be a 64-character hexadecimal SHA-256 digest"
  | .schemaVersion => "schema_version must use semantic version format"

/-- The checks of both validators, in their order. -/
def checks : List Check :=
  stringFields.map .string ++ integerFields.map .integer ++ numberFields.map .number ++
    [.payload] ++ [.tags] ++ [.retain] ++ [.latitude] ++ [.longitude] ++ [.heading] ++
    nonNegativeFields.map .nonNegative ++ positiveFields.map .positive ++
    [.eventId] ++ [.schemaVersion]

/-- How a language decides the checks. -/
structure Primitives where
  isInteger : Json → Bool
  isNumber : Json → Bool
  number : Json → Option ℚ
  badEventId : Json → Bool
  badSchemaVersion : Json → Bool

/-- The primitives of Rust. -/
def rust (double : FloatLit → ℚ) : Primitives where
  isInteger := Rust.isI64
  isNumber := Rust.isNumber
  number := Rust.asF64 double
  badEventId v := !Rust.validEventId v
  badSchemaVersion v := !Rust.validSchemaVersion v

/-- The primitives of Python. -/
def python (double : FloatLit → ℚ) : Primitives where
  isInteger := Python.isInt
  isNumber := Python.isIntOrFloat
  number := Python.number double
  badEventId v := !isNull v && !Python.validEventId v
  badSchemaVersion v := !isNull v && !Python.validSchemaVersion v

/-- The number of a field satisfies the condition. -/
def Primitives.fieldIs (p : Primitives) (e : Event) (field : String) (condition : ℚ → Bool) :
    Bool :=
  ((e.get? field).bind p.number).any condition

/-- The check fails for the event. -/
def Primitives.fails (p : Primitives) (e : Event) : Check → Bool
  | .string field => (e.get? field).any fun v => !isNull v && !isString v
  | .integer field => (e.get? field).any fun v => !isNull v && !p.isInteger v
  | .number field => (e.get? field).any fun v => !isNull v && !p.isNumber v
  | .payload => (e.get? "payload").any (!·.isObj)
  | .tags => (e.get? "tags").any (!·.isObj)
  | .retain => (e.get? "retain").any (!isBool ·)
  | .latitude => p.fieldIs e "latitude" fun v => !(-90 ≤ v && v ≤ 90)
  | .longitude => p.fieldIs e "longitude" fun v => !(-180 ≤ v && v ≤ 180)
  | .heading => p.fieldIs e "heading_deg" fun v => !(0 ≤ v && v ≤ 360)
  | .nonNegative field => p.fieldIs e field (· < 0)
  | .positive field => p.fieldIs e field (· ≤ 0)
  | .eventId => (e.get? "event_id").any p.badEventId
  | .schemaVersion => (e.get? "schema_version").any p.badSchemaVersion

/-- The messages of the checks that fail. -/
def Primitives.report (p : Primitives) (e : Event) : List String :=
  (checks.filter (p.fails e)).map Check.message

/-- The part of both reports that comes first. -/
def opening (topic : String) (required : List String) (e : Event) : List String :=
  (required.filter fun field => (e.get? field).all isEmptyValue).map
    ("missing required field: " ++ ·) ++
  if topic ∈ mediaTopics then
    ((e.keys.filter fun field => !(field ∈ mediaAllowedFields topic)).mergeSort le).map
      (("field not allowed by " ++ topic ++ ": ") ++ ·)
  else []

theorem map_filter_singleton (p : Check → Bool) (c : Check) :
    ([c].filter p).map Check.message = reported (p c) c.message := by
  cases h : p c <;> simp [h, reported]

theorem map_filter_map (p : Check → Bool) (f : String → Check) (fields : List String) :
    ((fields.map f).filter p).map Check.message =
      (fields.filter fun field => p (f field)).map fun field => (f field).message := by
  rw [List.filter_map, List.map_map]
  rfl

theorem report_python : Python.validateTypes e ++ Python.validateRanges double e ++
    Python.validateEnvelope e = (python double).report e := by
  simp only [Python.validateTypes, Python.validateRanges, Python.validateEnvelope, filter_present,
    Primitives.report, checks, List.filter_append, List.map_append, map_filter_map,
    map_filter_singleton, List.append_assoc]
  rfl

theorem report_rust : Rust.validateTypes e ++ Rust.validateRanges double e ++
    Rust.validateEnvelope e = (rust double).report e := by
  have hstring := @sortedIntersection_eq e stringFields (by decide +kernel) (by decide +kernel)
  have hinteger := @sortedIntersection_eq e integerFields (by decide +kernel) (by decide +kernel)
  have hnumber := @sortedIntersection_eq e numberFields (by decide +kernel) (by decide +kernel)
  simp only [Rust.validateTypes, Rust.validateRanges, Rust.validateEnvelope, hstring, hinteger,
    hnumber, filter_present, Primitives.report, checks, List.filter_append, List.map_append,
    map_filter_map, map_filter_singleton, List.append_assoc]
  rfl

/-- **The report of the validator in Rust.** -/
theorem validateEvent_rust {required : List String} (h : requiredFields topic = some required) :
    Rust.validateEvent double topic e = opening topic required e ++ (rust double).report e := by
  simp only [Rust.validateEvent, h, opening, filter_sortedKeys, ← report_rust, List.append_assoc]

/-- **The report of the validator in Python.** -/
theorem validateEvent_python {required : List String} (h : requiredFields topic = some required) :
    Python.validateEvent double topic e = opening topic required e ++ (python double).report e := by
  simp only [Python.validateEvent, h, opening, ← report_python, List.append_assoc]

/-! ### Equal reports -/

/-- Two selections from one list, seen through a map that tells its members apart, are equal exactly
if they select the same members. -/
theorem map_filter_eq_iff {α β : Type} {l : List α} {f : α → β} {p q : α → Bool}
    (hf : ∀ a ∈ l, ∀ b ∈ l, f a = f b → a = b) :
    (l.filter p).map f = (l.filter q).map f ↔ ∀ a ∈ l, p a = q a := by
  constructor
  · intro h a ha
    have hiff : ∀ {p q : α → Bool}, (l.filter p).map f = (l.filter q).map f → p a = true →
        q a = true := by
      intro p q h hp
      have hmem : f a ∈ (l.filter q).map f :=
        h ▸ List.mem_map_of_mem (List.mem_filter.2 ⟨ha, hp⟩)
      obtain ⟨b, hb, hfb⟩ := List.mem_map.1 hmem
      obtain ⟨hbl, hqb⟩ := List.mem_filter.1 hb
      rwa [← hf b hbl a ha hfb]
    exact Bool.eq_iff_iff.2 ⟨hiff h, hiff h.symm⟩
  · intro h
    rw [List.filter_congr h]

theorem message_injective : ∀ c ∈ checks, ∀ c' ∈ checks, c.message = c'.message → c = c' := by
  have hnodup : (checks.map Check.message).Nodup := by decide +kernel
  exact fun c hc c' hc' h => List.inj_on_of_nodup_map hnodup hc hc' h

theorem report_eq_iff {p q : Primitives} :
    p.report e = q.report e ↔ ∀ c ∈ checks, p.fails e c = q.fails e c :=
  map_filter_eq_iff message_injective

/-! ### Texts in bytes -/

theorem all_utf8EncodeChar {r : ℕ → Bool} (hr : ∀ n, 128 ≤ n → r n = false) (c : Char) :
    (String.utf8EncodeChar c).all (fun b => r b.toNat) = r c.toNat := by
  have hval : c.val.toNat = c.toNat := rfl
  simp only [String.utf8EncodeChar, hval]
  split_ifs with h₁ h₂ h₃
  · rw [List.all_cons, List.all_nil, Bool.and_true, UInt8.toNat_ofNat', Nat.mod_eq_of_lt (by omega)]
  -- a character outside of ASCII begins with a byte outside of ASCII
  all_goals
    rw [hr c.toNat (by omega), List.all_cons, UInt8.toNat_ofNat', Nat.mod_eq_of_lt (by omega),
      hr _ (by omega), Bool.false_and]

/-- What holds of ASCII codes only holds of the bytes of a text exactly if it holds of its
characters. -/
theorem all_encode {r : ℕ → Bool} (hr : ∀ n, 128 ≤ n → r n = false) (cs : List Char) :
    (encode cs).all (fun b => r b.toNat) = cs.all fun c => r c.toNat := by
  rw [encode, List.all_flatMap]
  exact congrArg cs.all (funext (all_utf8EncodeChar hr))

theorem length_encode {r : ℕ → Bool} (hr : ∀ n, 128 ≤ n → r n = false) {cs : List Char}
    (h : (cs.all fun c => r c.toNat) = true) : (encode cs).length = cs.length := by
  induction cs with
  | nil => rfl
  | cons c cs ih =>
    rw [List.all_cons, Bool.and_eq_true] at h
    have hc : c.toNat < 128 := by
      by_contra hge
      rw [hr c.toNat (by omega)] at h
      exact absurd h.1 (by decide)
    have hrest := ih h.2
    simp only [encode] at hrest
    rw [encode, List.flatMap_cons, utf8EncodeChar_of_ascii hc, List.length_append, hrest,
      List.length_singleton, List.length_cons, Nat.add_comm]

/-- The codes of `[0-9]`. -/
def digitCode (n : ℕ) : Bool := 48 ≤ n && n ≤ 57

/-- The codes of `[0-9a-f]`. -/
def hexCode (n : ℕ) : Bool := (48 ≤ n && n ≤ 57) || (97 ≤ n && n ≤ 102)

theorem digitByte_eq : Rust.digitByte = fun b => digitCode b.toNat := by
  funext b
  simp only [Rust.digitByte, digitCode, UInt8.le_iff_toNat_le]
  rfl

theorem hexByte_eq : Rust.hexByte = fun b => hexCode b.toNat := by
  funext b
  simp only [Rust.hexByte, hexCode, UInt8.le_iff_toNat_le]
  rfl

theorem digit_eq : digit = fun c => digitCode c.toNat := by
  funext c
  simp only [digit, digitCode, Char.le_def, UInt32.le_iff_toNat_le]
  rfl

theorem hexDigit_eq : hexDigit = fun c => hexCode c.toNat := by
  funext c
  simp only [hexDigit, digit, hexCode, Char.le_def, UInt32.le_iff_toNat_le]
  rfl

theorem digitCode_large (n : ℕ) (hn : 128 ≤ n) : digitCode n = false := by
  simp only [digitCode, Bool.and_eq_false_iff, decide_eq_false_iff_not]
  omega

theorem hexCode_large (n : ℕ) (hn : 128 ≤ n) : hexCode n = false := by
  simp only [hexCode, Bool.or_eq_false_iff, Bool.and_eq_false_iff, decide_eq_false_iff_not]
  omega

theorem all_digitByte (cs : List Char) : (encode cs).all Rust.digitByte = cs.all digit := by
  rw [digitByte_eq, digit_eq]
  exact all_encode digitCode_large cs

theorem validEventId_eq (v : Json) : Rust.validEventId v = Python.validEventId v := by
  cases v with
  | str s =>
    have hall : (encode s.toList).all Rust.hexByte = s.toList.all hexDigit := by
      rw [hexByte_eq, hexDigit_eq]
      exact all_encode hexCode_large s.toList
    simp only [Rust.validEventId, Python.validEventId, isHexDigest, hall]
    cases hhex : s.toList.all hexDigit with
    | false => simp
    | true =>
      rw [hexDigit_eq] at hhex
      rw [length_encode hexCode_large hhex]
  | _ => rfl

/-! ### Versions -/

theorem isDigit_of_digit {c : Char} (h : digit c = true) : isDigit c = true := by
  rw [digit_eq] at h
  simp only [digitCode, Bool.and_eq_true, decide_eq_true_eq] at h
  rw [isDigit, decimalDigit, digitZeros, List.any_cons, Bool.or_eq_true, Bool.or_eq_true]
  refine .inl (.inl ?_)
  simp only [Bool.and_eq_true, decide_eq_true_eq]
  omega

/-- Rust accepts the versions that Python accepts and whose digits are those of ASCII. -/
theorem validSchemaVersion_rust_iff (s : String) :
    Rust.validSchemaVersion (.str s) = true ↔ Python.validSchemaVersion (.str s) = true ∧
      ∀ part ∈ Rust.splitDots s, part.all digit = true := by
  simp only [Rust.validSchemaVersion, Python.validSchemaVersion, all_digitByte, Bool.and_eq_true,
    List.all_eq_true (l := Rust.splitDots s)]
  constructor
  · rintro ⟨hlength, hparts⟩
    refine ⟨⟨hlength, fun part hp => ⟨(hparts part hp).1, ?_⟩⟩, fun part hp => (hparts part hp).2⟩
    rw [List.all_eq_true]
    exact fun c hc => isDigit_of_digit (List.all_eq_true.1 (hparts part hp).2 c hc)
  · rintro ⟨⟨hlength, hparts⟩, hdigits⟩
    exact ⟨hlength, fun part hp => ⟨(hparts part hp).1, hdigits part hp⟩⟩

/-! ### Numbers -/

section Numbers

variable {v : Json} {n b : ℤ}

theorem cast_roundInt_le (hb : |b| < 2 ^ 53) :
    ((Double.roundInt n : ℤ) : ℚ) ≤ (b : ℚ) ↔ (n : ℚ) ≤ (b : ℚ) := by
  rw [Int.cast_le, Int.cast_le]
  exact Double.roundInt_le_iff hb

theorem le_cast_roundInt (hb : |b| < 2 ^ 53) :
    (b : ℚ) ≤ ((Double.roundInt n : ℤ) : ℚ) ↔ (b : ℚ) ≤ (n : ℚ) := by
  rw [Int.cast_le, Int.cast_le]
  exact Double.le_roundInt_iff hb

/-- A condition that rounding an integer does not change has one outcome for a value that is no
boolean. -/
theorem any_number_eq (hv : isBool v = false) {condition : ℚ → Bool}
    (hc : ∀ n : ℤ, condition (Double.roundInt n : ℤ) = condition n) :
    (Rust.asF64 double v).any condition = (Python.number double v).any condition := by
  cases v with
  | bool b => cases hv
  | int n => exact hc n
  | _ => rfl

theorem range_roundInt (lo hi : ℤ) (hlo : |lo| < 2 ^ 53) (hhi : |hi| < 2 ^ 53) (n : ℤ) :
    (!(decide ((lo : ℚ) ≤ (Double.roundInt n : ℤ)) &&
      decide (((Double.roundInt n : ℤ) : ℚ) ≤ hi))) =
      !(decide ((lo : ℚ) ≤ n) && decide ((n : ℚ) ≤ hi)) := by
  rw [decide_eq_decide.2 (le_cast_roundInt hlo), decide_eq_decide.2 (cast_roundInt_le hhi)]

theorem neg_roundInt (n : ℤ) :
    decide (((Double.roundInt n : ℤ) : ℚ) < 0) = decide ((n : ℚ) < 0) := by
  have h := @le_cast_roundInt n 0 (by decide)
  rw [Int.cast_zero] at h
  rw [decide_eq_decide, ← not_le, ← not_le, h]

theorem nonPos_roundInt (n : ℤ) :
    decide (((Double.roundInt n : ℤ) : ℚ) ≤ 0) = decide ((n : ℚ) ≤ 0) := by
  have h := @cast_roundInt_le n 0 (by decide)
  rw [Int.cast_zero] at h
  rw [decide_eq_decide, h]

/-- A value of an integer field that both languages treat alike. -/
def Fits : Json → Prop
  | .bool _ => False
  | .int n => -2 ^ 63 ≤ n ∧ n < 2 ^ 63
  | _ => True

theorem fits_iff (v : Json) :
    (!isNull v && !Rust.isI64 v) = (!isNull v && !Python.isInt v) ↔ Fits v := by
  cases v with
  | int n => simp [Fits, isNull, Rust.isI64, Python.isInt]
  | _ => simp [Fits, isNull, Rust.isI64, Python.isInt]

theorem isBool_of_fits (h : Fits v) : isBool v = false := by
  cases v with
  | bool b => exact h.elim
  | _ => rfl

theorem number_iff (v : Json) :
    (!isNull v && !Rust.isNumber v) = (!isNull v && !Python.isIntOrFloat v) ↔ isBool v = false := by
  cases v <;> simp [isNull, isBool, Rust.isNumber, Python.isIntOrFloat]

end Numbers

/-! ### The events -/

/-- The events that both validators treat alike: the envelope has no `null` and no digits outside of
ASCII, integers fit into `i64`, and no number is a boolean. -/
structure Alike (e : Event) : Prop where
  eventId : e.get? "event_id" ≠ some .null
  schemaVersion : e.get? "schema_version" ≠ some .null
  digits : ∀ s, e.get? "schema_version" = some (.str s) →
    Python.validSchemaVersion (.str s) = true → ∀ part ∈ Rust.splitDots s, part.all digit = true
  integers : ∀ field ∈ integerFields, ∀ v, e.get? field = some v → Fits v
  numbers : ∀ field ∈ numberFields, ∀ v, e.get? field = some v → isBool v = false

theorem any_eq_any_iff {o : Option Json} {p q : Json → Bool} :
    o.any p = o.any q ↔ ∀ v, o = some v → p v = q v := by
  cases o <;> simp

theorem eventId_same_iff : (rust double).fails e .eventId = (python double).fails e .eventId ↔
    e.get? "event_id" ≠ some .null := by
  simp only [Primitives.fails, rust, python, any_eq_any_iff, validEventId_eq]
  constructor
  · intro h hnull
    exact absurd (h _ hnull) (by decide)
  · intro h v hv
    have hv' : isNull v = false := by
      cases v with
      | null => exact absurd hv h
      | _ => rfl
    simp [hv']

theorem schemaVersion_same_iff :
    (rust double).fails e .schemaVersion = (python double).fails e .schemaVersion ↔
      e.get? "schema_version" ≠ some .null ∧ ∀ s, e.get? "schema_version" = some (.str s) →
        Python.validSchemaVersion (.str s) = true →
          ∀ part ∈ Rust.splitDots s, part.all digit = true := by
  simp only [Primitives.fails, rust, python, any_eq_any_iff]
  constructor
  · intro h
    refine ⟨fun hnull => absurd (h _ hnull) (by decide), fun s hs hvalid => ?_⟩
    have hsame := h _ hs
    simp only [isNull, Bool.not_false, Bool.true_and, hvalid, Bool.not_true,
      Bool.not_eq_false'] at hsame
    exact ((validSchemaVersion_rust_iff s).1 hsame).2
  · rintro ⟨hnull, hdigits⟩ v hv
    cases v with
    | null => exact absurd hv hnull
    | str s =>
      simp only [isNull, Bool.not_false, Bool.true_and]
      congr 1
      rw [Bool.eq_iff_iff, validSchemaVersion_rust_iff]
      exact ⟨fun h => h.1, fun h => ⟨h, hdigits s hv h⟩⟩
    | _ => rfl

/-- A numeric condition has one outcome in the fields of numbers. -/
theorem Alike.fieldIs (h : Alike e) {field : String}
    (hfield : field ∈ integerFields ∨ field ∈ numberFields) {condition : ℚ → Bool}
    (hc : ∀ n : ℤ, condition (Double.roundInt n : ℤ) = condition n) :
    (rust double).fieldIs e field condition = (python double).fieldIs e field condition := by
  unfold Primitives.fieldIs
  cases hv : e.get? field with
  | none => rfl
  | some v =>
    have hbool : isBool v = false := by
      rcases hfield with hi | hn
      · exact isBool_of_fits (h.integers field hi v hv)
      · exact h.numbers field hn v hv
    exact any_number_eq hbool hc

theorem mem_of_signed {field : String} (h : field ∈ nonNegativeFields ∨ field ∈ positiveFields) :
    field ∈ integerFields ∨ field ∈ numberFields := by
  have hall : ∀ field ∈ nonNegativeFields ++ positiveFields,
      field ∈ integerFields ∨ field ∈ numberFields := by decide
  exact hall field (List.mem_append.2 h)

theorem Alike.latitude (h : Alike e) :
    (rust double).fails e .latitude = (python double).fails e .latitude :=
  h.fieldIs (.inr (by decide)) fun n => by
    simpa using range_roundInt (-90) 90 (by decide) (by decide) n

theorem Alike.longitude (h : Alike e) :
    (rust double).fails e .longitude = (python double).fails e .longitude :=
  h.fieldIs (.inr (by decide)) fun n => by
    simpa using range_roundInt (-180) 180 (by decide) (by decide) n

theorem Alike.heading (h : Alike e) :
    (rust double).fails e .heading = (python double).fails e .heading :=
  h.fieldIs (.inr (by decide)) fun n => by
    simpa using range_roundInt 0 360 (by decide) (by decide) n

/-- **Every check has the same outcome for an event that both treat alike.** -/
theorem Alike.fails (h : Alike e) {c : Check} (hc : c ∈ checks) :
    (rust double).fails e c = (python double).fails e c := by
  simp only [checks, List.mem_append, List.mem_map, List.mem_singleton] at hc
  cases c with
  | integer field =>
    have hfield : field ∈ integerFields := by simpa using hc
    exact any_eq_any_iff.2 fun v hv => (fits_iff v).2 (h.integers field hfield v hv)
  | number field =>
    have hfield : field ∈ numberFields := by simpa using hc
    exact any_eq_any_iff.2 fun v hv => (number_iff v).2 (h.numbers field hfield v hv)
  | latitude => exact h.latitude
  | longitude => exact h.longitude
  | heading => exact h.heading
  | nonNegative field =>
    have hfield : field ∈ nonNegativeFields := by simpa using hc
    exact h.fieldIs (mem_of_signed (.inl hfield)) neg_roundInt
  | positive field =>
    have hfield : field ∈ positiveFields := by simpa using hc
    exact h.fieldIs (mem_of_signed (.inr hfield)) nonPos_roundInt
  | eventId => exact eventId_same_iff.2 h.eventId
  | schemaVersion => exact schemaVersion_same_iff.2 ⟨h.schemaVersion, h.digits⟩
  | _ => rfl

theorem alike_of_fails (h : ∀ c ∈ checks, (rust double).fails e c = (python double).fails e c) :
    Alike e := by
  have hversion := schemaVersion_same_iff.1 (h .schemaVersion (by simp [checks]))
  refine ⟨eventId_same_iff.1 (h .eventId (by simp [checks])), hversion.1, hversion.2, ?_, ?_⟩
  · intro field hfield v hv
    have hsame := h (.integer field) (by simp [checks, hfield])
    exact (fits_iff v).1 (any_eq_any_iff.1 hsame v hv)
  · intro field hfield v hv
    have hsame := h (.number field) (by simp [checks, hfield])
    exact (number_iff v).1 (any_eq_any_iff.1 hsame v hv)

/-- **The validators return the same messages exactly for the events that they treat alike**, and
for every topic without a contract. -/
theorem validators_agree_iff (double : FloatLit → ℚ) (topic : String) (e : Event) :
    Rust.validateEvent double topic e = Python.validateEvent double topic e ↔
      requiredFields topic = none ∨ Alike e := by
  cases htopic : requiredFields topic with
  | none => simp [Rust.validateEvent, Python.validateEvent, htopic]
  | some required =>
    rw [validateEvent_rust htopic, validateEvent_python htopic, List.append_cancel_left_eq,
      report_eq_iff]
    constructor
    · exact fun h => .inr (alike_of_fails h)
    · rintro (h | h)
      · cases h
      · exact fun c hc => h.fails hc

/-- A position with some other fields. -/
def position (extra : List (String × Json))
    (h : ((("device_id", Json.str "tag-1") :: ("timestamp", .str "2026-01-01T00:00:00Z") ::
      ("latitude", .int 50) :: ("longitude", .int 5) :: extra).map Prod.fst).Nodup) : Event :=
  ⟨_, h⟩

/-- The value of floating-point literals, for events that have none. -/
def noFloats : FloatLit → ℚ :=
  fun _ => 0

/-- A missing identifier, a digit of another script, a boolean and a large integer are judged
differently. -/
theorem validators_disagree :
    (Rust.validateEvent noFloats "raw.gps" (position [("event_id", .null)] (by decide)),
      Python.validateEvent noFloats "raw.gps" (position [("event_id", .null)] (by decide))) =
        (["event_id must be a 64-character hexadecimal SHA-256 digest"], []) ∧
    (Rust.validateEvent noFloats "raw.gps" (position [("schema_version", .str "1.0.²")]
      (by decide)), Python.validateEvent noFloats "raw.gps"
        (position [("schema_version", .str "1.0.²")] (by decide))) =
        (["schema_version must use semantic version format"], []) ∧
    (Rust.validateEvent noFloats "raw.gps" (position [("qos", .bool true)] (by decide)),
      Python.validateEvent noFloats "raw.gps" (position [("qos", .bool true)] (by decide))) =
        (["field must be an integer: qos"], []) ∧
    (Rust.validateEvent noFloats "raw.gps" (position [("size_bytes", .int (2 ^ 63))] (by decide)),
      Python.validateEvent noFloats "raw.gps"
        (position [("size_bytes", .int (2 ^ 63))] (by decide))) =
        (["field must be an integer: size_bytes"], []) := by
  -- the sorted keys of the validators do not compute: the reports are read off their checks
  refine ⟨?_, ?_, ?_, ?_⟩ <;>
    rw [validateEvent_rust rfl, validateEvent_python rfl] <;> decide +kernel

end ArchiDeal.Events
