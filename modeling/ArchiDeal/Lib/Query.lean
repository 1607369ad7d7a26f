import Mathlib.Data.List.Dedup
import Mathlib.Algebra.BigOperators.Ring.List
import Mathlib.Algebra.Ring.Nat
import Mathlib.Tactic.IntervalCases

/-!
# Queries

A query for the rows of one table, as an object-relational mapper assembles it step by step. A
condition that is joined with another table counts the joined rows that satisfy it, so that a row
comes once for each of them, unless the query is `DISTINCT`. A query may lock the rows it reads;
some engines refuse to lock the rows of a `DISTINCT` query or the nullable side of an outer join.
-/

namespace ArchiDeal

/-- A query for rows of type `α`. -/
structure Query (α : Type) where
  /-- Each condition counts the joined rows that satisfy it. -/
  conditions : List (α → ℕ)
  distinct : Bool
  /-- The query joins a table whose rows may be missing. -/
  outerJoin : Bool
  /-- `FOR UPDATE`, of every joined table. -/
  forUpdate : Bool

namespace Query

variable {α : Type}

/-- All rows. -/
def all : Query α := ⟨[], false, false, false⟩

/-- A condition on the row itself. -/
def filter (q : Query α) (p : α → Bool) : Query α :=
  { q with conditions := q.conditions ++ [fun a => if p a then 1 else 0] }

/-- A condition on joined rows. -/
def filterJoin (q : Query α) (count : α → ℕ) : Query α :=
  { q with conditions := q.conditions ++ [count] }

/-- `distinct()`. -/
def dedup (q : Query α) : Query α := { q with distinct := true }

/-- `select_related` of a row that may be missing. -/
def selectRelated (q : Query α) : Query α := { q with outerJoin := true }

def selectForUpdate (q : Query α) : Query α := { q with forUpdate := true }

/-- The rows can be locked by an engine that locks neither the rows of a `DISTINCT` query nor the
nullable side of an outer join. -/
def lockable (q : Query α) : Bool := !q.forUpdate || !(q.distinct || q.outerJoin)

/-- How often a row is selected. -/
def multiplicity (q : Query α) (a : α) : ℕ := (q.conditions.map (· a)).prod

/-- The rows of a query. -/
def rows [DecidableEq α] (q : Query α) (table : List α) : List α :=
  let joined := table.flatMap fun a => List.replicate (q.multiplicity a) a
  if q.distinct then joined.dedup else joined

/-- The row satisfies every condition. -/
def selects (q : Query α) (a : α) : Bool := q.multiplicity a != 0

@[simp] theorem selects_filter (q : Query α) (p : α → Bool) (a : α) :
    (q.filter p).selects a = (q.selects a && p a) := by
  simp only [selects, multiplicity, filter, List.map_append, List.map_cons, List.map_nil,
    List.prod_append, List.prod_singleton]
  cases p a <;> simp

@[simp] theorem selects_filterJoin (q : Query α) (count : α → ℕ) (a : α) :
    (q.filterJoin count).selects a = (q.selects a && count a != 0) := by
  rw [Bool.eq_iff_iff]
  simp only [selects, multiplicity, filterJoin, List.map_append, List.map_cons, List.map_nil,
    List.prod_append, List.prod_singleton, Bool.and_eq_true, bne_iff_ne, ne_eq, mul_eq_zero, not_or]

variable [DecidableEq α] {q : Query α} {table : List α} {a : α}

theorem mem_rows : a ∈ q.rows table ↔ a ∈ table ∧ q.selects a = true := by
  have hjoined : a ∈ table.flatMap (fun b => List.replicate (q.multiplicity b) b) ↔
      a ∈ table ∧ q.selects a = true := by
    simp only [List.mem_flatMap, List.mem_replicate, selects, bne_iff_ne]
    constructor
    · rintro ⟨b, hb, hne, rfl⟩
      exact ⟨hb, hne⟩
    · rintro ⟨ha, hne⟩
      exact ⟨a, ha, hne, rfl⟩
  unfold rows
  dsimp only
  split_ifs
  · rw [List.mem_dedup, hjoined]
  · exact hjoined

theorem dedup_replicate_append {b : α} {l : List α} (hb : b ∉ l) (n : ℕ) :
    (List.replicate n b ++ l).dedup = if n = 0 then l.dedup else b :: l.dedup := by
  induction n with
  | zero => rfl
  | succ n ih =>
    rw [List.replicate_succ, List.cons_append, if_neg n.succ_ne_zero]
    by_cases hn : n = 0
    · subst hn
      exact List.dedup_cons_of_notMem hb
    · have hmem : b ∈ List.replicate n b ++ l :=
        List.mem_append_left _ (List.mem_replicate.2 ⟨hn, rfl⟩)
      rw [List.dedup_cons_of_mem hmem, ih, if_neg hn]

/-- **A `DISTINCT` query selects each row at most once**, in the order of the table. -/
theorem rows_distinct (hq : q.distinct = true) (ht : table.Nodup) :
    q.rows table = table.filter q.selects := by
  unfold rows
  simp only [hq, if_true]
  induction table with
  | nil => rfl
  | cons b table ih =>
    obtain ⟨hb, ht⟩ := List.nodup_cons.1 ht
    have hnot : b ∉ table.flatMap fun a => List.replicate (q.multiplicity a) a := by
      simp only [List.mem_flatMap, List.mem_replicate, not_exists, not_and]
      rintro c hc - rfl
      exact hb hc
    rw [List.flatMap_cons, dedup_replicate_append hnot, ih ht, List.filter_cons]
    by_cases hzero : q.multiplicity b = 0 <;> simp [selects, hzero]

theorem rows_of_multiplicity_le_one (hd : q.distinct = false) (hq : ∀ a, q.multiplicity a ≤ 1) :
    q.rows table = table.filter q.selects := by
  unfold rows
  simp only [hd, Bool.false_eq_true, if_false]
  induction table with
  | nil => rfl
  | cons b table ih =>
    rw [List.flatMap_cons, ih, List.filter_cons]
    have hb := hq b
    interval_cases hm : q.multiplicity b <;> simp [selects, hm]

end Query

end ArchiDeal
