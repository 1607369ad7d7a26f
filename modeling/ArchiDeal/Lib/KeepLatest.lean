import Mathlib.Data.List.Induction
import Mathlib.Logic.Function.Basic
import Mathlib.Order.Lattice

/-!
# Keeping the latest event of every entity

A stream operator with one timestamp for each entity: an event is forwarded unless the rank of its
timestamp is smaller than the one of the last event that was forwarded for its entity. The last
event that it forwards has the greatest rank so far (`run_kept`), and it is the same one for any
order and any repetition of the events (`lastOf_run_eq`).
-/

namespace ArchiDeal.KeepLatest

variable {κ τ α E : Type} [DecidableEq κ] [LinearOrder α]
variable (entity : E → κ) (ts : E → τ) (rank : τ → α)

/-- One event: forward it unless its timestamp is smaller than the last one of its entity. -/
def step (r : (κ → Option τ) × List E) (e : E) : (κ → Option τ) × List E :=
  if (r.1 (entity e)).all (rank · ≤ rank (ts e)) then
    (Function.update r.1 (entity e) (some (ts e)), r.2 ++ [e])
  else r

/-- The state after some events, and the events that were forwarded. -/
def run (events : List E) : (κ → Option τ) × List E :=
  events.foldl (step entity ts rank) (fun _ => none, [])

/-- The last event of an entity in a list. -/
def lastOf (k : κ) (events : List E) : Option E := (events.filter (entity · = k)).getLast?

/-- The state is the timestamp of the last event that was forwarded, which is the
greatest so far. -/
structure Kept (events : List E) (r : (κ → Option τ) × List E) : Prop where
  state : ∀ k, r.1 k = (lastOf entity k r.2).map ts
  mem : ∀ k e, lastOf entity k r.2 = some e → e ∈ events ∧ entity e = k
  max : ∀ f ∈ events, ∃ e, lastOf entity (entity f) r.2 = some e ∧ rank (ts f) ≤ rank (ts e)

variable {entity ts rank}

theorem lastOf_concat (k : κ) (events : List E) (e : E) : lastOf entity k (events ++ [e]) =
    if entity e = k then some e else lastOf entity k events := by
  unfold lastOf
  rw [List.filter_append]
  split_ifs with h <;> simp [h]

theorem Kept.of_step {events : List E} {r : (κ → Option τ) × List E}
    (h : Kept entity ts rank events r)
    (e : E) : Kept entity ts rank (events ++ [e]) (step entity ts rank r e) := by
  unfold step
  split_ifs with hkeep
  · constructor
    · intro k
      rw [lastOf_concat]
      split_ifs with hk
      · simp [← hk]
      · exact (Function.update_of_ne (Ne.symm hk) _ _).trans (h.state k)
    · intro k f hf
      rw [lastOf_concat] at hf
      split_ifs at hf with hk
      · cases hf
        exact ⟨by simp, hk⟩
      · obtain ⟨hmem, hentity⟩ := h.mem k f hf
        exact ⟨List.mem_append_left _ hmem, hentity⟩
    · intro f hf
      rw [lastOf_concat]
      rcases List.mem_append.1 hf with hf | hf
      · obtain ⟨g, hg, hle⟩ := h.max f hf
        split_ifs with hk
        · -- the event that is forwarded replaces one with a smaller timestamp
          refine ⟨e, rfl, hle.trans ?_⟩
          rw [h.state, hk, hg] at hkeep
          simpa using hkeep
        · exact ⟨g, hg, hle⟩
      · obtain rfl := List.mem_singleton.1 hf
        exact ⟨f, if_pos rfl, le_rfl⟩
  · refine ⟨h.state, fun k f hf => ?_, fun f hf => ?_⟩
    · obtain ⟨hmem, hentity⟩ := h.mem k f hf
      exact ⟨List.mem_append_left _ hmem, hentity⟩
    · rcases List.mem_append.1 hf with hf | hf
      · exact h.max f hf
      · obtain rfl := List.mem_singleton.1 hf
        rw [h.state] at hkeep
        cases hlast : lastOf entity (entity f) r.2 with
        | none => simp [hlast] at hkeep
        | some g =>
          refine ⟨g, rfl, le_of_lt ?_⟩
          simpa [hlast] using hkeep

theorem run_kept (events : List E) :
    Kept entity ts rank events (run entity ts rank events) := by
  induction events using List.reverseRecOn with
  | nil => exact ⟨fun _ => rfl, nofun, nofun⟩
  | append_singleton events e ih =>
    rw [run, List.foldl_append]
    exact ih.of_step e

/-- Streams with the same events end with the same event of every entity, if no two events of an
entity have the same rank. -/
theorem lastOf_run_eq {events events' : List E} (hsame : ∀ e, e ∈ events ↔ e ∈ events')
    (hdistinct : ∀ e ∈ events, ∀ f ∈ events, entity e = entity f → rank (ts e) = rank (ts f) →
      e = f)
    (k : κ) : lastOf entity k (run entity ts rank events).2 =
      lastOf entity k (run entity ts rank events').2 := by
  have h : Kept entity ts rank events _ := run_kept events
  have h' : Kept entity ts rank events' _ := run_kept events'
  cases hlast : lastOf entity k (run entity ts rank events).2 with
  | none =>
    cases hlast' : lastOf entity k (run entity ts rank events').2 with
    | none => rfl
    | some f =>
      obtain ⟨hf, rfl⟩ := h'.mem k f hlast'
      obtain ⟨e, he, -⟩ := h.max f ((hsame f).2 hf)
      cases hlast.symm.trans he
  | some e =>
    -- each of the two last events has at most the rank of the other
    obtain ⟨he, rfl⟩ := h.mem k e hlast
    obtain ⟨f, hf, hle⟩ := h'.max e ((hsame e).1 he)
    obtain ⟨hmem, hentity⟩ := h'.mem _ f hf
    obtain ⟨g, hg, hge⟩ := h.max f ((hsame f).2 hmem)
    rw [hentity, hlast] at hg
    cases hg
    rw [hf, hdistinct e he f ((hsame f).2 hmem) hentity.symm (hle.antisymm hge)]

end ArchiDeal.KeepLatest
