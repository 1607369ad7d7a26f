import ArchiDeal.Lib.Check
import Mathlib.Data.List.Nodup
import Mathlib.Logic.Function.Basic

/-!
# Passes over rows

Rows under keys. A pass writes one row after the other, and the last one of a key stays.

* `written`, `written_apply`: the rows after a pass.
-/

namespace ArchiDeal.Passes

variable {κ γ ν : Type} [DecidableEq κ]

/-- The rows after a pass. -/
def written (rows : κ → Option γ) : List (κ × γ) → κ → Option γ
  | [] => rows
  | job :: jobs => written (Function.update rows job.1 (some job.2)) jobs

/-- The last row of a pass for a key. -/
def last (k : κ) : List (κ × γ) → Option γ
  | [] => none
  | job :: jobs => (last k jobs).or (if job.1 = k then some job.2 else none)

theorem mem_of_last {k : κ} {row : γ} {jobs : List (κ × γ)} (h : last k jobs = some row) :
    (k, row) ∈ jobs := by
  induction jobs with
  | nil => cases h
  | cons job jobs ih =>
    rw [last, Option.or_eq_some_iff] at h
    rcases h with h | ⟨-, h⟩
    · exact List.mem_cons_of_mem _ (ih h)
    · split_ifs at h with hk
      cases h
      subst hk
      exact List.mem_cons_self

theorem isSome_last {job : κ × γ} {jobs : List (κ × γ)} (h : job ∈ jobs) :
    (last job.1 jobs).isSome = true := by
  induction jobs with
  | nil => cases h
  | cons j jobs ih =>
    rw [last, Option.isSome_or]
    rcases List.mem_cons.1 h with rfl | h
    · simp
    · simp [ih h]

theorem written_apply (rows : κ → Option γ) (jobs : List (κ × γ)) (k : κ) :
    written rows jobs k = (last k jobs).or (rows k) := by
  induction jobs generalizing rows with
  | nil => rfl
  | cons job jobs ih =>
    rw [written, ih, last, Option.or_assoc, Function.update_apply]
    by_cases hk : k = job.1
    · simp [hk]
    · simp [hk, Ne.symm hk]

theorem written_concat (rows : κ → Option γ) (jobs : List (κ × γ)) (job : κ × γ) :
    written rows (jobs ++ [job]) = Function.update (written rows jobs) job.1 (some job.2) := by
  induction jobs generalizing rows with
  | nil => rfl
  | cons j jobs ih => exact ih _

/-! ### Passes that write each key once -/

theorem last_of_mem {k : κ} {row : γ} {jobs : List (κ × γ)} (hkeys : (jobs.map Prod.fst).Nodup)
    (h : (k, row) ∈ jobs) : last k jobs = some row := by
  obtain ⟨row', hrow'⟩ := Option.isSome_iff_exists.1 (isSome_last h)
  cases List.inj_on_of_nodup_map hkeys (mem_of_last hrow') h rfl
  exact hrow'

end ArchiDeal.Passes
