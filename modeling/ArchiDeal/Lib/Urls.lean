import ArchiDeal.Lib.JsonOrder

/-!
# URLs

The operations of `urllib.parse` that the modelled code uses.

* `quote`, `unquoteBytes_quoteBytes`, `quote_injective`: percent-encoding, which can be read back;
* `urlsplit`: the scheme and the network location of a URL;
* `isHttps_append`: a URL with `https` and a network location keeps both when a path is appended.

`urlsplit` raises a `ValueError` for a network location that `refused` holds of: unbalanced or
malformed brackets, and characters that NFKC normalization turns into delimiters.
-/

namespace ArchiDeal.Urls

open Text

/-! ### Percent-encoding -/

/-- The characters that are never quoted. -/
def unreserved (c : Char) : Bool := alphaDigit c || "_.-~".toList.contains c

/-- The three characters of a quoted byte. -/
def percentEscape (b : UInt8) : List Char :=
  ['%', (Nat.digitChar (b.toNat / 16)).toUpper, (Nat.digitChar (b.toNat % 16)).toUpper]

/-- A byte is quoted, unless it is a safe ASCII character. -/
def quoteByte (safe : Char → Bool) (b : UInt8) : List Char :=
  if b.toNat < 128 && safe (Char.ofNat b.toNat) then [Char.ofNat b.toNat] else percentEscape b

/-- `quote(s, safe=…)`, where `safe` also holds of the unreserved characters. -/
def quote (safe : Char → Bool) (s : String) : String :=
  String.ofList ((encode s.toList).flatMap (quoteByte safe))

/-- The value of a hexadecimal digit in upper case. -/
def hexValue (c : Char) : ℕ := if digit c then c.toNat - 48 else c.toNat - 55

/-- The bytes of a quoted text. -/
def unquoteBytes : List Char → List UInt8
  | '%' :: hi :: lo :: cs => UInt8.ofNat (hexValue hi * 16 + hexValue lo) :: unquoteBytes cs
  | c :: cs => UInt8.ofNat c.toNat :: unquoteBytes cs
  | [] => []

theorem hexValue_digitChar : ∀ n < 16, hexValue (Nat.digitChar n).toUpper = n := by decide

theorem unquoteBytes_percentEscape (b : UInt8) (cs : List Char) :
    unquoteBytes (percentEscape b ++ cs) = b :: unquoteBytes cs := by
  have hlt : b.toNat < 256 := b.toNat_lt
  have hhi := hexValue_digitChar (b.toNat / 16) (by omega)
  have hlo := hexValue_digitChar (b.toNat % 16) (by omega)
  have hvalue : b.toNat / 16 * 16 + b.toNat % 16 = b.toNat := by omega
  show UInt8.ofNat (hexValue _ * 16 + hexValue _) :: unquoteBytes cs = b :: unquoteBytes cs
  rw [hhi, hlo, hvalue, UInt8.ofNat_toNat]

theorem unquoteBytes_cons {c : Char} (h : c ≠ '%') (cs : List Char) :
    unquoteBytes (c :: cs) = UInt8.ofNat c.toNat :: unquoteBytes cs := by
  rw [unquoteBytes]
  intro hi lo rest hc
  exact absurd hc h

theorem toNat_ofNat_of_lt {n : ℕ} (h : n < 128) : (Char.ofNat n).toNat = n := by
  have hvalid : n.isValidChar := .inl (by omega)
  rw [Char.ofNat, dif_pos hvalid]
  rfl

/-- **Quoted bytes can be read back**, if the percent sign is quoted. -/
theorem unquoteBytes_quoteBytes {safe : Char → Bool} (hsafe : safe '%' = false) (bs : List UInt8) :
    unquoteBytes (bs.flatMap (quoteByte safe)) = bs := by
  induction bs with
  | nil => rfl
  | cons b bs ih =>
    rw [List.flatMap_cons, quoteByte]
    split_ifs with h
    · rw [Bool.and_eq_true, decide_eq_true_eq] at h
      have hne : Char.ofNat b.toNat ≠ '%' := by
        intro hc
        rw [hc, hsafe] at h
        exact Bool.false_ne_true h.2
      rw [List.singleton_append, unquoteBytes_cons hne, ih, toNat_ofNat_of_lt h.1,
        UInt8.ofNat_toNat]
    · rw [unquoteBytes_percentEscape, ih]

theorem quote_injective {safe : Char → Bool} (hsafe : safe '%' = false) :
    Function.Injective (quote safe) := by
  intro s t h
  have hchars := String.ofList_injective h
  have hbytes := congrArg unquoteBytes hchars
  rw [unquoteBytes_quoteBytes hsafe, unquoteBytes_quoteBytes hsafe] at hbytes
  exact String.toList_inj.1 (encode_injective hbytes)

theorem quote_of_safe {safe : Char → Bool} {s : String}
    (h : ∀ c ∈ s.toList, c.toNat < 128 ∧ safe c = true) : quote safe s = s := by
  rw [quote, ← String.toList_inj, String.toList_ofList, encode]
  generalize s.toList = cs at h ⊢
  induction cs with
  | nil => rfl
  | cons c cs ih =>
    obtain ⟨⟨hascii, hsafe⟩, hcs⟩ := List.forall_mem_cons.1 h
    have hbyte : (UInt8.ofNat c.toNat).toNat = c.toNat := by
      rw [UInt8.toNat_ofNat', Nat.mod_eq_of_lt (by omega)]
    rw [List.flatMap_cons, utf8EncodeChar_of_ascii hascii, List.singleton_append, List.flatMap_cons,
      ih hcs, quoteByte, hbyte,
      Char.ofNat_toNat, if_pos (by simp [hascii, hsafe]), List.singleton_append]

/-! ### Splitting -/

/-- The characters of a scheme. -/
def schemeChar (c : Char) : Bool := alphaDigit c || "+-.".toList.contains c

/-- The letters of ASCII. -/
def letter (c : Char) : Bool := ('a' ≤ c && c ≤ 'z') || upper c

/-- The characters that end a network location. -/
def endsNetloc (c : Char) : Bool := "/?#".toList.contains c

/-- The characters that `urlsplit` strips on the left: controls and the blank. -/
def stripped (c : Char) : Bool := c.toNat ≤ 32

/-- The characters that `urlsplit` removes. -/
def removed (c : Char) : Bool := "\t\r\n".toList.contains c

/-- The scheme of a URL and what follows the colon. -/
def splitScheme (url : List Char) : List Char × List Char :=
  let head := url.takeWhile (· != ':')
  match url.dropWhile (· != ':') with
  | _ :: rest =>
    if head.head?.any letter && head.all schemeChar then (head.map Char.toLower, rest) else
      ([], url)
  | [] => ([], url)

/-- The scheme, the network location and the rest of a URL; `none` for a `ValueError`. -/
def urlsplit (refused : List Char → Bool) (url : List Char) :
    Option (List Char × List Char × List Char) :=
  let (scheme, url) := splitScheme ((url.dropWhile stripped).filter (!removed ·))
  match url with
  | '/' :: '/' :: rest =>
    let netloc := rest.takeWhile (!endsNetloc ·)
    if refused netloc then none else some (scheme, netloc, rest.dropWhile (!endsNetloc ·))
  | _ => some (scheme, [], url)

/-- The URL has the scheme `https` and a network location; `none` for a `ValueError`. -/
def isHttps (refused : List Char → Bool) (url : List Char) : Option Bool :=
  (urlsplit refused url).map fun parts => parts.1 == "https".toList && !parts.2.1.isEmpty

theorem splitScheme_append {url scheme rest : List Char} (h : splitScheme url = (scheme, rest))
    (hscheme : scheme ≠ []) (tail : List Char) :
    splitScheme (url ++ tail) = (scheme, rest ++ tail) := by
  simp only [splitScheme] at h ⊢
  cases hd : url.dropWhile (· != ':') with
  | nil =>
    rw [hd] at h
    cases h
    exact absurd rfl hscheme
  | cons c cs =>
    have hne : ¬ (url.dropWhile (· != ':')).isEmpty = true := by simp [hd]
    -- the colon is in `url`, so that `tail` is not looked at
    have htake : (url ++ tail).takeWhile (· != ':') = url.takeWhile (· != ':') := by
      rw [List.takeWhile_append, if_neg]
      intro hlength
      have hsplit := congrArg List.length (List.takeWhile_append_dropWhile (p := (· != ':'))
        (l := url))
      rw [List.length_append, hd, List.length_cons] at hsplit
      omega
    rw [htake, List.dropWhile_append, if_neg hne, hd]
    rw [hd] at h
    simp only [List.cons_append] at h ⊢
    split_ifs at h ⊢
    · cases h
      rfl
    · cases h
      exact absurd rfl hscheme

theorem urlsplit_append {refused : List Char → Bool} {url scheme netloc rest : List Char}
    (h : urlsplit refused url = some (scheme, netloc, rest)) (hscheme : scheme ≠ [])
    (hnetloc : netloc ≠ []) (path : List Char) :
    ∃ rest', urlsplit refused (url ++ '/' :: path) = some (scheme, netloc, rest') := by
  simp only [urlsplit] at h
  generalize hparts : splitScheme ((url.dropWhile stripped).filter (!removed ·)) = parts at h
  obtain ⟨scheme', rest₀⟩ := parts
  -- Without a network location the second part would be empty.
  obtain ⟨host, rfl⟩ : ∃ host, rest₀ = '/' :: '/' :: host := by
    simp only at h
    split at h
    · exact ⟨_, rfl⟩
    · simp only [Option.some.injEq, Prod.mk.injEq] at h
      exact absurd h.2.1.symm hnetloc
  simp only at h
  split_ifs at h with hrefused
  simp only [Option.some.injEq, Prod.mk.injEq] at h
  obtain ⟨rfl, rfl, -⟩ := h
  have hne : ¬ (url.dropWhile stripped).isEmpty = true := by
    intro hempty
    rw [List.isEmpty_iff.1 hempty] at hparts
    cases hparts
  have hsplit := splitScheme_append hparts hscheme ('/' :: path.filter (!removed ·))
  have htake : (host ++ '/' :: path.filter (!removed ·)).takeWhile (!endsNetloc ·) =
      host.takeWhile (!endsNetloc ·) := by
    rw [List.takeWhile_append]
    split_ifs with hall
    · have hslash : endsNetloc '/' = true := by decide
      rw [List.takeWhile_cons, hslash]
      simp only [Bool.not_true, Bool.false_eq_true, if_false, List.append_nil]
      exact ((List.takeWhile_prefix _).eq_of_length hall).symm
    · rfl
  have hslash : removed '/' = false := by decide
  refine ⟨(host ++ '/' :: path.filter (!removed ·)).dropWhile (!endsNetloc ·), ?_⟩
  rw [urlsplit, List.dropWhile_append, if_neg hne, List.filter_append, List.filter_cons_of_pos
    (by simp [hslash]), hsplit]
  simp only [List.cons_append, htake, hrefused, Bool.false_eq_true, if_false]

/-- **A path that is appended** leaves the scheme and the network location. -/
theorem isHttps_append {refused : List Char → Bool} {url : List Char}
    (h : isHttps refused url = some true) (path : List Char) :
    isHttps refused (url ++ '/' :: path) = some true := by
  simp only [isHttps, Option.map_eq_some_iff, Bool.and_eq_true, beq_iff_eq, Bool.not_eq_true',
    List.isEmpty_eq_false_iff] at h ⊢
  obtain ⟨⟨scheme, netloc, rest⟩, hsplit, hscheme, hnetloc⟩ := h
  obtain rfl : scheme = "https".toList := hscheme
  obtain ⟨rest', hsplit'⟩ := urlsplit_append hsplit (by decide) hnetloc path
  exact ⟨_, hsplit', rfl, hnetloc⟩

end ArchiDeal.Urls
