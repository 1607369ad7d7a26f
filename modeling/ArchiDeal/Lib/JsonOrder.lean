import ArchiDeal.Lib.JsonRoundTrip
import Mathlib.Data.List.Perm.Basic

/-!
# The order of keys

`sort_keys=True` and what does not depend on the order of the members of an object: a value and
its sorted form answer the same look-ups, and two objects with the same members have one canonical
text.
-/

namespace ArchiDeal

namespace Text

theorem bytesLe_total (a b : List UInt8) : bytesLe a b = true ∨ bytesLe b a = true := by
  induction a generalizing b with
  | nil => exact .inl rfl
  | cons x a ih =>
    cases b with
    | nil => exact .inr rfl
    | cons y b =>
      rcases Nat.lt_trichotomy x.toNat y.toNat with h | h | h
      · exact .inl (by simp [bytesLe, h.ne, h])
      · simpa [bytesLe, h] using ih b
      · exact .inr (by simp [bytesLe, h.ne, h])

theorem bytesLe_trans {a b c : List UInt8} (hab : bytesLe a b = true) (hbc : bytesLe b c = true) :
    bytesLe a c = true := by
  induction a generalizing b c with
  | nil => rfl
  | cons x a ih =>
    cases b with
    | nil => cases hab
    | cons y b =>
      cases c with
      | nil => cases hbc
      | cons z c =>
        simp only [bytesLe] at hab hbc ⊢
        split_ifs at hab hbc ⊢ with hxy hyz hxz
        · exact ih hab hbc
        all_goals simp only [decide_eq_true_eq] at *
        all_goals omega

theorem bytesLe_antisymm {a b : List UInt8} (hab : bytesLe a b = true) (hba : bytesLe b a = true) :
    a = b := by
  induction a generalizing b with
  | nil =>
    cases b with
    | nil => rfl
    | cons y b => cases hba
  | cons x a ih =>
    cases b with
    | nil => cases hab
    | cons y b =>
      simp only [bytesLe] at hab hba
      split_ifs at hab hba with hxy hyx
      · rw [UInt8.toNat_inj.1 hxy, ih hab hba]
      all_goals simp only [decide_eq_true_eq] at *
      all_goals omega

theorem le_antisymm {s t : String} (hst : le s t = true) (hts : le t s = true) : s = t :=
  String.toByteArray_inj.1 (ByteArray.ext (Array.toList_inj.1 (bytesLe_antisymm hst hts)))

theorem utf8EncodeChar_of_ascii {c : Char} (hc : c.toNat < 128) :
    String.utf8EncodeChar c = [UInt8.ofNat c.toNat] := by
  have hval : c.val.toNat = c.toNat := rfl
  simp only [String.utf8EncodeChar, hval]
  rw [if_pos (by omega)]

theorem encode_injective {a b : List Char} (h : encode a = encode b) : a = b := by
  have hbytes : a.utf8Encode = b.utf8Encode := congrArg List.toByteArray h
  rw [← String.toByteArray_ofList, ← String.toByteArray_ofList] at hbytes
  exact String.ofList_injective (String.toByteArray_inj.1 hbytes)

end Text

namespace Json

open Text

/-! ### Look-ups -/

section Lookup

variable {α β : Type} {k : String} {kvs lws : List (String × α)}

theorem lookup_eq_some_of_nodup (h : (kvs.map Prod.fst).Nodup) {a : α} :
    kvs.lookup k = some a ↔ (k, a) ∈ kvs := by
  induction kvs with
  | nil => simp
  | cons p kvs ih =>
    obtain ⟨l, b⟩ := p
    rw [List.map_cons, List.nodup_cons] at h
    by_cases hk : k = l
    · subst hk
      rw [List.lookup_cons_self]
      constructor
      · rintro ⟨⟩
        exact .head _
      · intro hmem
        rcases List.mem_cons.1 hmem with heq | hmem
        · cases heq
          rfl
        · exact absurd (List.mem_map_of_mem hmem) h.1
    · have hbeq : (k == l) = false := by simpa using hk
      rw [List.lookup_cons, hbeq, ih h.2, List.mem_cons]
      simp [hk]

theorem lookup_of_perm (h : (kvs.map Prod.fst).Nodup) (hperm : kvs.Perm lws) :
    kvs.lookup k = lws.lookup k := by
  have h' : (lws.map Prod.fst).Nodup := (hperm.map _).nodup_iff.1 h
  refine Option.ext fun a => ?_
  rw [lookup_eq_some_of_nodup h, lookup_eq_some_of_nodup h', hperm.mem_iff]

theorem lookup_map (f : α → β) :
    (kvs.map fun p => (p.1, f p.2)).lookup k = (kvs.lookup k).map f := by
  induction kvs with
  | nil => rfl
  | cons p kvs ih =>
    rw [List.map_cons, List.lookup_cons, List.lookup_cons]
    split
    · rfl
    · exact ih

end Lookup

/-! ### Sorted values -/

@[simp] theorem sortKeys_str (s : String) : sortKeys (.str s) = .str s := by simp [sortKeys]

@[simp] theorem sortKeys_int (n : ℤ) : sortKeys (.int n) = .int n := by simp [sortKeys]

theorem sortItems_eq (xs : List Json) : sortItems xs = xs.map sortKeys := by
  induction xs with
  | nil => rfl
  | cons x xs ih => rw [sortItems, ih, List.map_cons]

theorem sortKeys_arr (xs : List Json) : sortKeys (.arr xs) = .arr (xs.map sortKeys) := by
  rw [sortKeys, sortItems_eq]

theorem sortMembers_eq (kvs : List (String × Json)) :
    sortMembers kvs = kvs.map fun p => (p.1, sortKeys p.2) := by
  induction kvs with
  | nil => rfl
  | cons p kvs ih => rw [sortMembers, ih, List.map_cons]

/-- The members of a sorted object are those of the object, with sorted values. -/
theorem sortKeys_obj (kvs : List (String × Json)) : ∃ lws, sortKeys (.obj kvs) = .obj lws ∧
    lws.Perm (kvs.map fun p => (p.1, sortKeys p.2)) ∧ lws.Pairwise fun a b => le a.1 b.1 := by
  have htotal : Std.Total fun a b : String × Json => le a.1 b.1 = true :=
    ⟨fun a b => bytesLe_total _ _⟩
  have htrans : IsTrans (String × Json) fun a b => le a.1 b.1 = true :=
    ⟨fun a b c => bytesLe_trans⟩
  refine ⟨_, by rw [sortKeys, sortMembers_eq], List.perm_insertionSort _ _, ?_⟩
  exact List.pairwise_insertionSort _ _

theorem keys_perm_of_sortKeys {kvs lws : List (String × Json)}
    (h : lws.Perm (kvs.map fun p => (p.1, sortKeys p.2))) :
    (lws.map Prod.fst).Perm (kvs.map Prod.fst) := by
  simpa [List.map_map, Function.comp_def] using h.map Prod.fst

theorem sortKeys_obj_congr {kvs lws : List (String × Json)}
    (h : (kvs.map fun p => (p.1, sortKeys p.2)) = lws.map fun p => (p.1, sortKeys p.2)) :
    sortKeys (.obj kvs) = sortKeys (.obj lws) := by
  simp only [sortKeys, sortMembers_eq, h]

/-- Objects whose sorted members are the same up to order have the same sorted form. -/
theorem sortKeys_congr {kvs lws : List (String × Json)} (hnodup : (kvs.map Prod.fst).Nodup)
    (h : (kvs.map fun p => (p.1, sortKeys p.2)).Perm (lws.map fun p => (p.1, sortKeys p.2))) :
    sortKeys (.obj kvs) = sortKeys (.obj lws) := by
  obtain ⟨ks, hks, hkp, hkle⟩ := sortKeys_obj kvs
  obtain ⟨ls, hls, hlp, hlle⟩ := sortKeys_obj lws
  have hperm : ks.Perm ls := hkp.trans (h.trans hlp.symm)
  have hnodup' : (ks.map Prod.fst).Nodup := (keys_perm_of_sortKeys hkp).nodup_iff.2 hnodup
  rw [hks, hls, hperm.eq_of_pairwise ?_ hkle hlle]
  intro a b ha hb hab hba
  have hfst : a.1 = b.1 := le_antisymm hab hba
  have hb' := hperm.symm.subset hb
  have hla := (lookup_eq_some_of_nodup hnodup').2 (show (a.1, a.2) ∈ ks from ha)
  have hlb := (lookup_eq_some_of_nodup hnodup').2 (show (b.1, b.2) ∈ ks from hb')
  rw [hfst, hlb] at hla
  exact Prod.ext hfst (Option.some.inj hla).symm

theorem get?_sortKeys {v : Json} (hv : v.keys.Nodup) (k : String) :
    (sortKeys v).get? k = (v.get? k).map sortKeys := by
  cases v with
  | obj kvs =>
    obtain ⟨lws, h, hperm, -⟩ := sortKeys_obj kvs
    rw [h, get?_obj, get?_obj, ← lookup_map sortKeys]
    exact lookup_of_perm ((keys_perm_of_sortKeys hperm).nodup_iff.2 hv) hperm
  | _ => rfl

variable {r : FloatReader}

theorem nodup_keys_of_readable {v : Json} (hv : readable r v = true) : v.keys.Nodup := by
  cases v with
  | obj kvs =>
    simp only [readable, Bool.and_eq_true, decide_eq_true_eq] at hv
    exact hv.1
  | _ => exact List.nodup_nil

theorem readable_get? {v w : Json} {k : String} (hv : readable r v = true) (h : v.get? k = some w) :
    readable r w = true := by
  cases v with
  | obj kvs =>
    simp only [readable, Bool.and_eq_true, decide_eq_true_eq, readableMembers_iff] at hv
    exact hv.2 (k, w) ((lookup_eq_some_of_nodup hv.1).1 h)
  | _ => cases h

theorem readable_sortKeys {v : Json} (hv : readable r v = true) : readable r (sortKeys v) =
    true := by
  induction v using values_induction with
  | arr xs ih =>
    simp only [readable, readableItems_iff, sortKeys, sortItems_eq, List.forall_mem_map] at hv ⊢
    exact fun x hx => ih x hx (hv x hx)
  | obj kvs ih =>
    obtain ⟨lws, h, hperm, -⟩ := sortKeys_obj kvs
    simp only [readable, Bool.and_eq_true, decide_eq_true_eq, readableMembers_iff, h] at hv ⊢
    refine ⟨(keys_perm_of_sortKeys hperm).nodup_iff.2 hv.1, fun p hp => ?_⟩
    obtain ⟨q, hq, rfl⟩ := List.mem_map.1 (hperm.subset hp)
    exact ih q hq (hv.2 q hq)
  | _ => exact hv

theorem sortKeys_sortKeys {v : Json} (hv : readable r v = true) :
    sortKeys (sortKeys v) = sortKeys v := by
  induction v using values_induction with
  | arr xs ih =>
    simp only [readable, readableItems_iff] at hv
    simp only [sortKeys, sortItems_eq, List.map_map, arr.injEq, List.map_inj_left]
    exact fun x hx => ih x hx (hv x hx)
  | obj kvs ih =>
    simp only [readable, Bool.and_eq_true, decide_eq_true_eq, readableMembers_iff] at hv
    obtain ⟨lws, h, hperm, -⟩ := sortKeys_obj kvs
    have hlws : sortKeys (.obj lws) = sortKeys (.obj kvs) := by
      refine sortKeys_congr ((keys_perm_of_sortKeys hperm).nodup_iff.2 hv.1) ?_
      refine (hperm.map _).trans (.of_eq ?_)
      rw [List.map_map, List.map_inj_left]
      exact fun p hp => Prod.ext rfl (ih p hp (hv.2 p hp))
    rw [h, hlws, h]
  | _ => rfl

/-- The canonical bytes determine the value, up to the order of keys. -/
theorem sortKeys_of_canonical {r : FloatReader} {v w : Json} (hv : readable r v = true)
    (hw : readable r w = true) (h : v.canonical = w.canonical) : v.sortKeys = w.sortKeys := by
  have htext : v.sortKeys.dumps = w.sortKeys.dumps := encode_injective h
  have hread := loads_dumps (r := .dict r) (readable_sortKeys hv) (nesting_le_length _)
  rw [htext, loads_dumps (readable_sortKeys hw) (nesting_le_length _)] at hread
  exact (Except.ok.inj hread).symm

end Json

end ArchiDeal
