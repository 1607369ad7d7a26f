import Mathlib.Data.List.AList
import Mathlib.Algebra.Order.Group.Nat

/-!
# Tables

A table of a relational store: rows of type `α` under primary keys of type `κ`. The type is
Mathlib's association list without duplicate keys, so that a key never has two rows; `insert`
both adds a row and saves an existing one. This file adds the queries over all rows.
-/

namespace ArchiDeal

/-- Rows of type `α` under primary keys of type `κ`. -/
abbrev Table (κ α : Type) := AList fun _ : κ => α

namespace Table

variable {κ α : Type}

/-- Tables are compared row by row. -/
instance [DecidableEq κ] [DecidableEq α] : DecidableEq (Table κ α) := fun s t =>
  decidable_of_iff (s.entries = t.entries) AList.ext_iff.symm

/-- Does some row satisfy `p`? -/
def any (t : Table κ α) (p : κ → α → Bool) : Bool := t.entries.any fun e => p e.1 e.2

/-- The first row that satisfies `p`. -/
def find (t : Table κ α) (p : κ → α → Bool) : Option (κ × α) :=
  (t.entries.find? fun e => p e.1 e.2).map fun e => (e.1, e.2)

variable [DecidableEq κ] {t : Table κ α} {p : κ → α → Bool} {k : κ} {a : α}

theorem lookup_eq_some_iff : t.lookup k = some a ↔ (⟨k, a⟩ : Sigma fun _ : κ => α) ∈ t.entries :=
  AList.mem_lookup_iff

theorem any_eq_true : t.any p = true ↔ ∃ k a, t.lookup k = some a ∧ p k a = true := by
  simp only [any, List.any_eq_true, lookup_eq_some_iff]
  constructor
  · rintro ⟨⟨k, a⟩, hm, hp⟩
    exact ⟨k, a, hm, hp⟩
  · rintro ⟨k, a, hm, hp⟩
    exact ⟨⟨k, a⟩, hm, hp⟩

theorem any_eq_false : t.any p = false ↔ ∀ k a, t.lookup k = some a → p k a = false := by
  rw [← Bool.not_eq_true, any_eq_true]
  simp only [not_exists, not_and, Bool.not_eq_true]

theorem lookup_of_find (h : t.find p = some (k, a)) : t.lookup k = some a ∧ p k a = true := by
  simp only [find, Option.map_eq_some_iff, Prod.mk.injEq] at h
  obtain ⟨⟨k', a'⟩, hf, rfl, rfl⟩ := h
  refine ⟨lookup_eq_some_iff.2 (List.mem_of_find?_eq_some hf), ?_⟩
  simpa using List.find?_some hf

theorem find_eq_none : t.find p = none ↔ ∀ k a, t.lookup k = some a → p k a = false := by
  simp only [find, Option.map_eq_none_iff, List.find?_eq_none, lookup_eq_some_iff,
    Bool.not_eq_true]
  exact ⟨fun h k a hm => h ⟨k, a⟩ hm, fun h e hm => h e.1 e.2 hm⟩

/-- A row read after a save: the saved one under its key, the old one elsewhere. -/
theorem lookup_insert_eq (k k' : κ) (b : α) :
    AList.lookup k' (t.insert k b) = if k' = k then some b else t.lookup k' := by
  split_ifs with h
  · subst h; exact AList.lookup_insert t
  · exact AList.lookup_insert_ne h

theorem lookup_insert_of_new {i : κ} {b : α} (hk : t.lookup k = none) (h : t.lookup i = some a) :
    AList.lookup i (t.insert k b) = some a := by
  rw [lookup_insert_eq, if_neg, h]
  rintro rfl
  cases hk.symm.trans h

theorem lookup_erase_eq_some {k' : κ} :
    AList.lookup k' (t.erase k) = some a ↔ k' ≠ k ∧ t.lookup k' = some a := by
  by_cases h : k' = k
  · subst h; simp [AList.lookup_erase]
  · simp [AList.lookup_erase_ne h, h]

theorem lookup_erase_of_none {k' : κ} (h : t.lookup k' = none) :
    AList.lookup k' (t.erase k) = none :=
  Option.eq_none_iff_forall_ne_some.2 fun _ hb => by
    rw [lookup_erase_eq_some, h] at hb
    exact absurd hb.2 nofun

/-- Every row changed in place. -/
def mapRows {β : Type} (t : Table κ α) (f : κ → α → β) : Table κ β where
  entries := t.entries.map fun e => ⟨e.1, f e.1 e.2⟩
  nodupKeys := by
    have hkeys : (t.entries.map fun e => (⟨e.1, f e.1 e.2⟩ : Sigma fun _ : κ => β)).keys =
        t.entries.keys := by
      simp [List.keys]
    rw [List.NodupKeys, hkeys]
    exact t.nodupKeys

theorem lookup_mapRows {β : Type} (t : Table κ α) (f : κ → α → β) (k : κ) :
    (t.mapRows f).lookup k = (t.lookup k).map (f k) := by
  ext b
  rw [Option.map_eq_some_iff, lookup_eq_some_iff]
  simp only [mapRows, List.mem_map, lookup_eq_some_iff]
  constructor
  · rintro ⟨⟨k', a⟩, hm, he⟩
    cases he
    exact ⟨a, hm, rfl⟩
  · rintro ⟨a, hm, rfl⟩
    exact ⟨⟨k, a⟩, hm, rfl⟩

/-- The next value of an automatic integer key. -/
def nextKey (t : Table ℕ α) : ℕ := t.keys.foldr max 0 + 1

theorem lookup_nextKey (t : Table ℕ α) : t.lookup t.nextKey = none := by
  have hle : ∀ (l : List ℕ) (k : ℕ), k ∈ l → k ≤ l.foldr max 0 := by
    intro l k hk
    induction l with
    | nil => cases hk
    | cons a l ih =>
      rcases List.mem_cons.1 hk with rfl | hk
      · exact le_max_left _ _
      · exact (ih hk).trans (le_max_right _ _)
  rw [AList.lookup_eq_none]
  intro hmem
  have := hle _ _ (AList.mem_keys.1 hmem)
  simp only [nextKey] at this
  omega

/-! ### Unique columns -/

section Unique

variable {β : Type}

/-- A unique constraint: no two rows have the same value of `f`. -/
def Unique (t : Table κ α) (f : α → β) : Prop :=
  ∀ i j a b, t.lookup i = some a → t.lookup j = some b → f a = f b → i = j

theorem Unique.insert {f : α → β} {b : α} (h : t.Unique f)
    (hb : ∀ j a, t.lookup j = some a → f a = f b → j = k) : Unique (t.insert k b) f := by
  intro i j c d hc hd hf
  rw [lookup_insert_eq] at hc hd
  split_ifs at hc with hi
  · cases hc
    split_ifs at hd with hj
    · exact hi.trans hj.symm
    · exact hi.trans (hb j d hd hf.symm).symm
  · split_ifs at hd with hj
    · cases hd
      exact (hb i c hc hf).trans hj.symm
    · exact h i j c d hc hd hf

end Unique

/-! ### Rows with revisions -/

section Grows

variable {rev : α → ℕ} {n n' m : ℕ} {s t u : Table ℕ α} {i : ℕ} {r r' : α}

/-- Each row of `t` is a row of `s`, the same or with a larger revision, or it has one of the new
keys from `n` to `n' - 1`. A key below `n` whose row is gone does not come back. -/
def Grows (rev : α → ℕ) (n n' : ℕ) (s t : Table ℕ α) : Prop :=
  ∀ i r', t.lookup i = some r' →
    (∃ r, s.lookup i = some r ∧ (r' = r ∨ rev r < rev r')) ∨ (n ≤ i ∧ i < n')

theorem Grows.of_eq (h : t = s) : Grows rev n n' s t := by
  subst h
  exact fun _ r' hr => .inl ⟨r', hr, .inl rfl⟩

theorem Grows.trans (hst : Grows rev n n' s t) (htu : Grows rev n' m t u) (hn : n ≤ n')
    (hm : n' ≤ m) : Grows rev n m s u := by
  intro i r'' hu
  rcases htu i r'' hu with ⟨r', ht, hr'⟩ | ⟨hle, hlt⟩
  · rcases hst i r' ht with ⟨r, hs, hr⟩ | ⟨hle, hlt⟩
    · refine .inl ⟨r, hs, ?_⟩
      rcases hr' with rfl | hr'
      · exact hr
      · rcases hr with rfl | hr
        · exact .inr hr'
        · exact .inr (hr.trans hr')
    · exact .inr ⟨hle, hlt.trans_le hm⟩
  · exact .inr ⟨hn.trans hle, hlt⟩

theorem grows_save (hs : s.lookup i = some r) (hr : r' = r ∨ rev r < rev r') :
    Grows rev n n' s (s.insert i r') := by
  intro j b hb
  rw [lookup_insert_eq] at hb
  split_ifs at hb with hj
  · cases hb
    subst hj
    exact .inl ⟨r, hs, hr⟩
  · exact .inl ⟨b, hb, .inl rfl⟩

theorem grows_insert : Grows rev n (n + 1) s (s.insert n r) := by
  intro j b hb
  rw [lookup_insert_eq] at hb
  split_ifs at hb with hj
  · exact .inr ⟨hj.ge, by omega⟩
  · exact .inl ⟨b, hb, .inl rfl⟩

theorem grows_erase : Grows rev n n' s (s.erase i) := by
  intro j b hb
  by_cases hj : j = i
  · subst hj
    rw [AList.lookup_erase] at hb
    cases hb
  · rw [AList.lookup_erase_ne hj] at hb
    exact .inl ⟨b, hb, .inl rfl⟩

theorem grows_mapRows {f : ℕ → α → α} (hf : ∀ j b, s.lookup j = some b → f j b = b) :
    Grows rev n n' s (s.mapRows f) := by
  intro j b hb
  rw [lookup_mapRows, Option.map_eq_some_iff] at hb
  obtain ⟨a, ha, rfl⟩ := hb
  exact .inl ⟨a, ha, .inl (hf j a ha)⟩

theorem Grows.lt (h : Grows rev n n' s t) (hn : n ≤ n') (hs : ∀ j b, s.lookup j = some b → j < n)
    {j : ℕ} {b : α} (hb : t.lookup j = some b) : j < n' := by
  rcases h j b hb with ⟨a, ha, -⟩ | ⟨-, hlt⟩
  · exact (hs j a ha).trans_le hn
  · exact hlt

/-- **A revision identifies its row.** -/
theorem Grows.revision (h : Grows rev n n' s t) (hs : s.lookup i = some r) (hi : i < n)
    (ht : t.lookup i = some r') : rev r ≤ rev r' ∧ (rev r' = rev r → r' = r) := by
  rcases h i r' ht with ⟨b, hb, hr⟩ | ⟨hle, -⟩
  · rw [hs] at hb
    cases hb
    rcases hr with rfl | hlt
    · exact ⟨le_rfl, fun _ => rfl⟩
    · exact ⟨hlt.le, fun heq => absurd heq (by omega)⟩
  · omega

/-- A row that is the same at both ends was there, the same, in between. -/
theorem Grows.between (hst : Grows rev n n' s t) (htu : Grows rev n' m t u) (hn : n ≤ n')
    (hi : i < n) (hs : s.lookup i = some r) (hu : u.lookup i = some r) : t.lookup i = some r := by
  rcases htu i r hu with ⟨b, hb, hr⟩ | ⟨hle, -⟩
  · obtain ⟨hle, -⟩ := hst.revision hs hi hb
    rcases hr with rfl | hlt
    · exact hb
    · omega
  · omega

end Grows

end Table

end ArchiDeal
