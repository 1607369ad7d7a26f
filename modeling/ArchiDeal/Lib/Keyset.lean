import Mathlib.Data.List.Basic
import Mathlib.Data.Option.Basic
import Mathlib.Order.Defs.Unbundled

/-!
# Keyset pages

A long listing is read page by page: a call names the key of the last row that was read, its cursor,
and is answered with rows past it and, unless these are the last ones, with the next cursor. What is
listed may change between two calls.

* `IsPage`: what one answer says about the content it was read from;
* `isPage_take`: the first rows of a sorted list, with one row of look-ahead, are a page;
* `Listing`: the calls of a whole listing, whatever happens between them;
* `Listing.sorted`, `Listing.complete`: no row is listed twice, and a key that is there at every
  call is listed;
* `exists_listing`: a listing of a content that does not change ends.
-/

namespace ArchiDeal.Keyset

variable {σ α κ : Type} (lt : κ → κ → Prop) (key : α → κ)

/-! ### One page -/

/-- The key is past the cursor. -/
def Past (cursor : Option κ) (k : κ) : Prop := ∀ c ∈ cursor, lt c k

/-- The rows and the next cursor are an answer to a call with this cursor. -/
structure IsPage (content : α → Prop) (cursor : Option κ) (rows : List α) (next : Option κ) :
    Prop where
  sound : ∀ a ∈ rows, content a
  past : ∀ a ∈ rows, Past lt cursor (key a)
  sorted : rows.Pairwise fun a b => lt (key a) (key b)
  /-- What is past the cursor is on the page or past the next cursor. -/
  complete : ∀ a, content a → Past lt cursor (key a) → a ∈ rows ∨ ∃ n ∈ next, lt n (key a)
  /-- The next cursor is the last key of the page. -/
  upTo : ∀ n ∈ next, (∃ a ∈ rows, key a = n) ∧ ∀ a ∈ rows, key a = n ∨ lt (key a) n

/-- The next cursor of a page that was read with one row of look-ahead. -/
def nextCursor (limit : ℕ) (rows : List α) : Option κ :=
  if limit < rows.length then (rows.take limit).getLast?.map key else none

variable {lt key}

/-- **The first rows of what is past the cursor, sorted, are a page.** -/
theorem isPage_take {content : α → Prop} {cursor : Option κ} {limit : ℕ} {rows : List α}
    (hlimit : 1 ≤ limit) (hmem : ∀ a, a ∈ rows ↔ content a ∧ Past lt cursor (key a))
    (hsorted : rows.Pairwise fun a b => lt (key a) (key b)) :
    IsPage lt key content cursor (rows.take limit) (nextCursor key limit rows) where
  sound a ha := ((hmem a).1 (List.mem_of_mem_take ha)).1
  past a ha := ((hmem a).1 (List.mem_of_mem_take ha)).2
  sorted := hsorted.sublist (List.take_sublist _ _)
  complete := by
    intro a ha hpast
    have hrow : a ∈ rows.take limit ++ rows.drop limit := by
      rw [List.take_append_drop]
      exact (hmem a).2 ⟨ha, hpast⟩
    rcases List.mem_append.1 hrow with hfirst | hrest
    · exact .inl hfirst
    · -- there is a row past the page, so the page is full and its last row is before it
      have hlt : limit < rows.length := by
        have := List.length_pos_of_mem hrest
        rw [List.length_drop] at this
        omega
      have hne : rows.take limit ≠ [] := by
        intro hnil
        have := congrArg List.length hnil
        rw [List.length_take, List.length_nil] at this
        omega
      refine .inr ⟨key ((rows.take limit).getLast hne), ?_, ?_⟩
      · rw [nextCursor, if_pos hlt, List.getLast?_eq_some_getLast hne]
        rfl
      · rw [← List.take_append_drop limit rows] at hsorted
        exact (List.pairwise_append.1 hsorted).2.2 _ (List.getLast_mem hne) a hrest
  upTo := by
    intro n hn
    unfold nextCursor at hn
    split_ifs at hn with hlt
    · obtain ⟨a, ha, rfl⟩ := Option.map_eq_some_iff.1 hn
      obtain ⟨first, hfirst⟩ := List.getLast?_eq_some_iff.1 ha
      rw [hfirst]
      refine ⟨⟨a, by simp, rfl⟩, fun b hb => ?_⟩
      rcases List.mem_append.1 hb with hb | hb
      · have htake := hsorted.sublist (List.take_sublist limit rows)
        rw [hfirst] at htake
        exact .inr ((List.pairwise_append.1 htake).2.2 b hb a (by simp))
      · exact .inl (congrArg key (List.mem_singleton.1 hb))
    · cases hn

/-! ### Whole listings -/

/-- A listing from a cursor on: the states in which its calls are answered, with the rows of each
answer. Between two calls the state `moves`. -/
inductive Listing (answers : σ → Option κ → List α → Option κ → Prop) (moves : σ → σ → Prop) :
    Option κ → σ → List (σ × List α) → Prop
  | last {cursor : Option κ} {s : σ} {rows : List α} (answer : answers s cursor rows none) :
      Listing answers moves cursor s [(s, rows)]
  | more {cursor : Option κ} {s s' : σ} {rows : List α} {next : κ} {visits : List (σ × List α)}
      (answer : answers s cursor rows (some next)) (move : moves s s')
      (rest : Listing answers moves (some next) s' visits) :
      Listing answers moves cursor s ((s, rows) :: visits)

/-- The rows of a listing, page after page. -/
def listed (visits : List (σ × List α)) : List α := visits.flatMap Prod.snd

theorem listed_singleton (v : σ × List α) : listed [v] = v.2 := List.append_nil _

theorem mem_listed {a : α} {visits : List (σ × List α)} :
    a ∈ listed visits ↔ ∃ v ∈ visits, a ∈ v.2 := List.mem_flatMap

section Run

variable {answers : σ → Option κ → List α → Option κ → Prop} {moves : σ → σ → Prop}
  {content : σ → α → Prop} {Inv : σ → Prop} {cursor : Option κ} {s : σ}
  {visits : List (σ × List α)}

theorem Listing.past (htrans : ∀ a b c, lt a b → lt b c → lt a c)
    (hpage : ∀ s cursor rows next, Inv s → answers s cursor rows next →
      IsPage lt key (content s) cursor rows next)
    (hmove : ∀ s s', Inv s → moves s s' → Inv s')
    (h : Listing answers moves cursor s visits) (hs : Inv s) :
    ∀ a ∈ listed visits, Past lt cursor (key a) := by
  induction h with
  | last answer =>
    intro a ha
    rw [listed_singleton] at ha
    exact (hpage _ _ _ _ hs answer).past a ha
  | @more cursor s s' rows next visits answer move rest ih =>
    intro a ha
    have page := hpage _ _ _ _ hs answer
    rcases List.mem_append.1 ha with hrow | hlater
    · exact page.past a hrow
    · intro c hc
      obtain ⟨b, hb, rfl⟩ := (page.upTo next rfl).1
      exact htrans _ _ _ (page.past b hb c hc) (ih (hmove _ _ hs move) a hlater _ rfl)

/-- **A listing is sorted, so that it has no key twice.** -/
theorem Listing.sorted (htrans : ∀ a b c, lt a b → lt b c → lt a c)
    (hpage : ∀ s cursor rows next, Inv s → answers s cursor rows next →
      IsPage lt key (content s) cursor rows next)
    (hmove : ∀ s s', Inv s → moves s s' → Inv s')
    (h : Listing answers moves cursor s visits) (hs : Inv s) :
    (listed visits).Pairwise fun a b => lt (key a) (key b) := by
  induction h with
  | last answer =>
    rw [listed_singleton]
    exact (hpage _ _ _ _ hs answer).sorted
  | @more cursor s s' rows next visits answer move rest ih =>
    have page := hpage _ _ _ _ hs answer
    have hs' := hmove _ _ hs move
    have hlater := rest.past htrans hpage hmove hs'
    refine List.pairwise_append.2 ⟨page.sorted, ih hs', fun a ha b hb => ?_⟩
    rcases (page.upTo next rfl).2 a ha with heq | hlt
    · rw [heq]
      exact hlater b hb next rfl
    · exact htrans _ _ _ hlt (hlater b hb next rfl)

theorem Listing.sound
    (hpage : ∀ s cursor rows next, Inv s → answers s cursor rows next →
      IsPage lt key (content s) cursor rows next)
    (hmove : ∀ s s', Inv s → moves s s' → Inv s')
    (h : Listing answers moves cursor s visits) (hs : Inv s) :
    ∀ v ∈ visits, ∀ a ∈ v.2, content v.1 a := by
  induction h with
  | last answer =>
    intro v hv
    cases List.mem_singleton.1 hv
    exact (hpage _ _ _ _ hs answer).sound
  | more answer move rest ih =>
    intro v hv
    rcases List.mem_cons.1 hv with rfl | hv
    · exact (hpage _ _ _ _ hs answer).sound
    · exact ih (hmove _ _ hs move) v hv

/-- **A key that has a row at every call is listed.** -/
theorem Listing.complete
    (hpage : ∀ s cursor rows next, Inv s → answers s cursor rows next →
      IsPage lt key (content s) cursor rows next)
    (hmove : ∀ s s', Inv s → moves s s' → Inv s')
    (h : Listing answers moves cursor s visits) (hs : Inv s) {k : κ} (hk : Past lt cursor k)
    (hthere : ∀ v ∈ visits, ∃ a, content v.1 a ∧ key a = k) :
    ∃ v ∈ visits, ∃ a ∈ v.2, key a = k := by
  induction h with
  | @last cursor s rows answer =>
    obtain ⟨a, ha, rfl⟩ := hthere _ (List.mem_singleton_self _)
    rcases (hpage _ _ _ _ hs answer).complete a ha hk with hrow | ⟨n, hn, -⟩
    · exact ⟨(s, rows), List.mem_singleton_self _, a, hrow, rfl⟩
    · cases hn
  | @more cursor s s' rows next visits answer move rest ih =>
    obtain ⟨a, ha, rfl⟩ := hthere _ List.mem_cons_self
    rcases (hpage _ _ _ _ hs answer).complete a ha hk with hrow | ⟨n, hn, hlt⟩
    · exact ⟨(s, rows), List.mem_cons_self, a, hrow, rfl⟩
    · -- the key is past the next cursor, so that a later page has it
      obtain ⟨v, hv, hrow⟩ := ih (hmove _ _ hs move)
        (fun c hc => Option.some.inj (hc.symm.trans hn) ▸ hlt)
        fun v hv => hthere v (List.mem_cons_of_mem _ hv)
      exact ⟨v, List.mem_cons_of_mem _ hv, hrow⟩

end Run

/-! ### Listings of a content that does not change -/

section Ends

variable [DecidableRel lt]

variable (lt key) in
/-- The rows past the cursor. -/
def left (cursor : Option κ) (rows : List α) : List α :=
  rows.filter fun a => cursor.all fun c => lt c (key a)

theorem mem_left {cursor : Option κ} {rows : List α} {a : α} :
    a ∈ left lt key cursor rows ↔ a ∈ rows ∧ Past lt cursor (key a) := by
  cases cursor <;> simp [left, Past]

theorem length_left_lt (hirrefl : ∀ a, ¬ lt a a) (htrans : ∀ a b c, lt a b → lt b c → lt a c)
    {cursor : Option κ} {rows : List α} {a : α} (ha : a ∈ rows) (hpast : Past lt cursor (key a)) :
    (left lt key (some (key a)) rows).length < (left lt key cursor rows).length := by
  have hsub : (left lt key (some (key a)) rows).Sublist (left lt key cursor rows) := by
    refine List.monotone_filter_right _ fun b hb => ?_
    cases cursor with
    | none => rfl
    | some c =>
      simp only [Option.all_some, decide_eq_true_eq] at hb ⊢
      exact htrans _ _ _ (hpast c rfl) hb
  refine Nat.lt_of_le_of_ne hsub.length_le fun hlength => ?_
  -- equally long, the two would be the same, and only the second has the row
  have hmem := mem_left.2 ⟨ha, hpast⟩
  rw [← hsub.eq_of_length hlength] at hmem
  exact hirrefl _ ((mem_left.1 hmem).2 _ rfl)

/-- **A listing ends**, when calls are answered and the content does not change: each page leaves
fewer rows to be listed. -/
theorem exists_listing (hirrefl : ∀ a, ¬ lt a a)
    (htrans : ∀ a b c, lt a b → lt b c → lt a c)
    {answers : σ → Option κ → List α → Option κ → Prop} (moves : σ → σ → Prop) {s : σ}
    (hstay : moves s s) {rows : List α} {ok : κ → Prop}
    (hanswer : ∀ cursor : Option κ, (∀ c ∈ cursor, ok c) → ∃ page next,
      answers s cursor page next ∧ IsPage lt key (· ∈ rows) cursor page next)
    (hok : ∀ a ∈ rows, ok (key a)) (cursor : Option κ) (hcursor : ∀ c ∈ cursor, ok c) :
    ∃ visits, Listing answers moves cursor s visits ∧ ∀ v ∈ visits, v.1 = s := by
  -- the number of rows past the cursor
  induction hn : (left lt key cursor rows).length using Nat.strongRecOn generalizing cursor with
  | _ n ih =>
    obtain ⟨page, next, hpage, isPage⟩ := hanswer cursor hcursor
    cases next with
    | none =>
      refine ⟨[(s, page)], .last hpage, fun v hv => ?_⟩
      cases List.mem_singleton.1 hv
      rfl
    | some next =>
      obtain ⟨a, ha, rfl⟩ := (isPage.upTo next rfl).1
      have hrow := isPage.sound a ha
      have hpast := isPage.past a ha
      have hfewer := hn ▸ length_left_lt hirrefl htrans hrow hpast
      obtain ⟨visits, hvisits, hsame⟩ := ih _ hfewer (some (key a))
        (fun c hc => Option.some.inj hc ▸ hok a hrow) rfl
      exact ⟨(s, page) :: visits, .more hpage hstay hvisits, List.forall_mem_cons.2 ⟨rfl, hsame⟩⟩

end Ends

end ArchiDeal.Keyset
