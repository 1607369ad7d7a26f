import ArchiDeal.Catalogue.Locking
import ArchiDeal.Lib.JsonOrder

/-!
# What a reader learns about datasets

`DatasetViewSet` shows a principal who is not staff the enabled datasets whose access list names the
principal: the local account, one of its groups, or a group of the token.
`reader_learns_only_granted` says that every answer depends on these datasets only, and that the
account of an OIDC token is determined by its issuer and its subject.

* `selects_filteredDatasets`: what the query of a reader selects;
* `visible_list`: the selected rows in the order of their keys, as a function of what may be read.
-/

namespace ArchiDeal.Catalogue

open Text Hosting Fields

variable {locale : Locale} {engine : Engine} {db db' : Database} {p : Principal} {d : Dataset}
  {params : DatasetParams}

/-! ### Requests -/

inductive DatasetRequest where
  | list (params : DatasetParams)
  | retrieve (params : DatasetParams) (id : ℕ)
  | create (body : DatasetBody)
  | update (params : DatasetParams) (id : ℕ) (ifMatch : Option String) (patch : Bool)
      (body : DatasetBody)
  | destroy (params : DatasetParams) (id : ℕ) (ifMatch : Option String)

/-- The response and the committed database. -/
def DatasetRequest.handle (engine : Engine) (locale : Locale) (user : Principal) (now : Time)
    (db : Database) : DatasetRequest → Response × Database
  | .list params => finish db (listDatasets engine locale db user params >>= fun r => .ok (r, db))
  | .retrieve params id =>
    finish db (retrieveDataset engine locale db user params id >>= fun r => .ok (r, db))
  | .create body => finish db (requireStaff user >>= fun _ => createDataset db now body)
  | .update params id ifMatch patch body => finish db (requireStaff user >>= fun _ =>
      updateDataset engine locale db user now params id ifMatch patch body)
  | .destroy params id ifMatch => finish db (requireStaff user >>= fun _ =>
      destroyDataset engine locale db user params id ifMatch)

/-! ### Datasets that may be read -/

/-- The access list of the dataset names the principal. -/
def Granted (db : Database) (p : Principal) (d : Dataset) : Prop :=
  (∃ account, aclUser db p = some account ∧
    (account ∈ d.users ∨ ∃ g ∈ d.groups, g ∈ groupsOf db account)) ∨
  ∃ g ∈ d.groups, ∃ group, db.groups.lookup g = some group ∧ group.name ∈ externalGroups p

def MayRead (db : Database) (p : Principal) (d : Dataset) : Prop :=
  d.enabled = true ∧ Granted db p d

/-- The two databases differ only in datasets that the principal may not read, and in access lists
of others: the same datasets may be read, with the same fields. -/
structure SameFor (p : Principal) (db db' : Database) : Prop where
  users : db'.users = db.users
  groups : db'.groups = db.groups
  modules : db'.modules = db.modules
  datasets : ∀ id e, (∃ d, db.datasets.lookup id = some d ∧ MayRead db p d ∧ d.toEntry = e) ↔
    ∃ d, db'.datasets.lookup id = some d ∧ MayRead db' p d ∧ d.toEntry = e

theorem mem_joined {ids : Finset ℕ} {o : Option ℕ} :
    o ∈ joined ids ↔ (o = none ∧ ids = ∅) ∨ ∃ i ∈ ids, o = some i := by
  unfold joined
  split_ifs with h
  · simp [h]
  · simp [h, eq_comm]

theorem joined_nonempty (ids : Finset ℕ) : ∃ o, o ∈ joined ids := by
  rcases ids.eq_empty_or_nonempty with h | ⟨i, hi⟩
  · exact ⟨none, mem_joined.2 (.inl ⟨rfl, h⟩)⟩
  · exact ⟨some i, mem_joined.2 (.inr ⟨i, hi, rfl⟩)⟩

/-- **Some joined row gives access exactly if the access list names the principal.** -/
theorem accessScope_ne_zero : accessScope db p d ≠ 0 ↔ Granted db p d := by
  -- the count is over pairs of an outer join, where a side without rows has `none`
  rw [accessScope, Ne, Finset.card_eq_zero, ← Ne, ← Finset.nonempty_iff_ne_empty]
  constructor
  · rintro ⟨⟨u, g⟩, h⟩
    obtain ⟨hmem, hcond⟩ := Finset.mem_filter.1 h
    obtain ⟨hu, hg⟩ := Finset.mem_product.1 hmem
    have hgroup : ∀ {i}, g = some i → i ∈ d.groups := by
      rintro i rfl
      rcases mem_joined.1 hg with ⟨hnone, -⟩ | ⟨j, hj, heq⟩
      · cases hnone
      · cases heq
        exact hj
    rcases hcond with ⟨account, hacc, huser | ⟨i, hi, hgi⟩⟩ | ⟨i, hgi, hname⟩
    · dsimp only at huser
      subst huser
      rcases mem_joined.1 hu with ⟨hnone, -⟩ | ⟨j, hj, heq⟩
      · cases hnone
      · cases heq
        exact .inl ⟨account, hacc, .inl hj⟩
    · exact .inl ⟨account, hacc, .inr ⟨i, hgroup hgi, hi⟩⟩
    · exact .inr ⟨i, hgroup hgi, hname⟩
  · rintro (⟨account, hacc, huser | ⟨i, hi, hgi⟩⟩ | ⟨i, hi, hname⟩)
    · obtain ⟨g, hg⟩ := joined_nonempty d.groups
      refine ⟨(some account, g), Finset.mem_filter.2 ⟨Finset.mem_product.2 ⟨?_, hg⟩, ?_⟩⟩
      · exact mem_joined.2 (.inr ⟨account, huser, rfl⟩)
      · exact .inl ⟨account, hacc, .inl rfl⟩
    · obtain ⟨u, hu⟩ := joined_nonempty d.users
      refine ⟨(u, some i), Finset.mem_filter.2 ⟨Finset.mem_product.2 ⟨hu, ?_⟩, ?_⟩⟩
      · exact mem_joined.2 (.inr ⟨i, hi, rfl⟩)
      · exact .inl ⟨account, hacc, .inr ⟨i, hgi, rfl⟩⟩
    · obtain ⟨u, hu⟩ := joined_nonempty d.users
      refine ⟨(u, some i), Finset.mem_filter.2 ⟨Finset.mem_product.2 ⟨hu, ?_⟩, ?_⟩⟩
      · exact mem_joined.2 (.inr ⟨i, hi, rfl⟩)
      · exact .inr ⟨i, rfl, hname⟩

/-! ### The query of a reader -/

theorem selects_scopeQuery (hp : p.isStaff = false) (id : ℕ) :
    (scopeQuery db p).selects (id, d) = true ↔ MayRead db p d := by
  unfold scopeQuery
  rw [if_neg (by simp [hp])]
  split_ifs with hnone
  · simp only [Bool.and_eq_true, Option.isNone_iff_eq_none, List.isEmpty_iff] at hnone
    simp [MayRead, Granted, hnone.1, hnone.2]
  · rw [Query.selects_filterJoin, Query.selects_filter, Bool.and_eq_true, Bool.and_eq_true,
      bne_iff_ne, accessScope_ne_zero]
    simp [MayRead, selects_all]

/-- What the parameters of a reader ask for. -/
def narrows (locale : Locale) (db : Database) (params : DatasetParams) (terms : List String)
    (e : Entry) : Bool :=
  params.enabled.all (fun value => e.enabled == queryBool locale value) &&
    (given params.moduleSlug).all (fun slug => withSlug db.modules slug e.modules != 0) &&
    terms.all (matchesTerm locale db e)

/-- The terms of the search: `none` if the filter refuses the text. -/
def searchTerms (locale : Locale) (params : DatasetParams) : Option (List String) :=
  match params.search with
  | none => some []
  | some text => locale.terms text

def readerQuery (locale : Locale) (db : Database) (p : Principal) (params : DatasetParams) :
    Query (ℕ × Dataset) :=
  let q := scopeQuery db p
  let q := match params.enabled with
    | some value => q.filter fun row => row.2.enabled == queryBool locale value
    | none => q
  match given params.moduleSlug with
  | some slug => q.filterJoin fun row => withSlug db.modules slug row.2.modules
  | none => q

theorem datasetQuery_reader (hp : p.isStaff = false) :
    datasetQuery locale db p params = .ok (readerQuery locale db p params).dedup := by
  unfold datasetQuery readerQuery
  simp only [hp, Bool.false_eq_true, if_false]
  rfl

theorem selects_readerQuery (hp : p.isStaff = false) (id : ℕ) :
    (readerQuery locale db p params).selects (id, d) = true ↔
      MayRead db p d ∧ narrows locale db params [] d.toEntry = true := by
  unfold readerQuery narrows
  cases params.enabled <;> cases given params.moduleSlug <;>
    simp [selects_scopeQuery hp, and_assoc]

theorem selects_search {q : Query (ℕ × Dataset)} {terms : List String} (id : ℕ)
    (hq : q.selects (id, d) = true ↔ MayRead db p d ∧
      narrows locale db params [] d.toEntry = true) :
    (q.filter fun row => terms.all (matchesTerm locale db row.2.toEntry)).selects (id, d) = true ↔
      MayRead db p d ∧ narrows locale db params terms d.toEntry = true := by
  rw [Query.selects_filter, Bool.and_eq_true, hq]
  simp only [narrows, List.all_nil, Bool.and_true, Bool.and_eq_true, and_assoc]

/-- **What the query of a reader selects**: the datasets that may be read and that the parameters
ask for. -/
theorem selects_filteredDatasets (locale : Locale) (db : Database) (params : DatasetParams)
    (hp : p.isStaff = false) :
    (searchTerms locale params = none ∧
      filteredDatasets locale db p params = .error (.response (answer 400 .invalid))) ∨
    ∃ terms q, searchTerms locale params = some terms ∧
      filteredDatasets locale db p params = .ok q ∧ q.distinct = true ∧ q.forUpdate = false ∧
      ∀ id d, q.selects (id, d) = true ↔
        MayRead db p d ∧ narrows locale db params terms d.toEntry = true := by
  have hbase : ∀ id d, (readerQuery locale db p params).dedup.selects (id, d) = true ↔
      MayRead db p d ∧ narrows locale db params [] d.toEntry = true :=
    fun id d => selects_readerQuery hp id
  have hlock : (readerQuery locale db p params).forUpdate = false := by
    unfold readerQuery scopeQuery
    cases params.enabled <;> cases given params.moduleSlug <;> dsimp only <;> split_ifs <;> rfl
  unfold filteredDatasets searchTerms searchQuery
  rw [datasetQuery_reader hp, ok_bind]
  cases params.search with
  | none => exact .inr ⟨[], _, rfl, rfl, rfl, hlock, hbase⟩
  | some text =>
    dsimp only
    cases hterms : locale.terms text with
    | none => exact .inl ⟨rfl, rfl⟩
    | some terms =>
      cases terms with
      | nil => exact .inr ⟨[], _, rfl, rfl, rfl, hlock, hbase⟩
      | cons term terms =>
        exact .inr ⟨term :: terms, _, rfl, rfl, rfl, hlock, fun id d =>
          selects_search id (hbase id d)⟩

/-! ### Answers -/

/-- The rows that a query selects, with their keys in order and without their access lists. -/
def visible (q : Query (ℕ × Dataset)) (db : Database) : List (ℕ × Entry) :=
  (sortedRows (q.rows (rowsOf db.datasets))).map fun row => (row.1, row.2.toEntry)

theorem mem_visible {q : Query (ℕ × Dataset)} {row : ℕ × Entry} : row ∈ visible q db ↔
    ∃ d, db.datasets.lookup row.1 = some d ∧ q.selects (row.1, d) = true ∧ d.toEntry = row.2 := by
  obtain ⟨id, e⟩ := row
  simp only [visible, sortedRows, List.mem_map, List.mem_mergeSort, Query.mem_rows, mem_rowsOf,
    Prod.exists, Prod.mk.injEq]
  constructor
  · rintro ⟨i, d, ⟨hd, hq⟩, rfl, rfl⟩
    exact ⟨d, hd, hq, rfl⟩
  · rintro ⟨d, hd, hq, rfl⟩
    exact ⟨id, d, ⟨hd, hq⟩, rfl, rfl⟩

theorem pairwise_sortedRows {α : Type} (rows : List (ℕ × α)) :
    (sortedRows rows).Pairwise fun r s => r.1 ≤ s.1 := by
  have htrans : ∀ a b c : ℕ × α, decide (a.1 ≤ b.1) = true → decide (b.1 ≤ c.1) = true →
      decide (a.1 ≤ c.1) = true := by
    simp only [decide_eq_true_eq]
    omega
  have htotal : ∀ a b : ℕ × α, (decide (a.1 ≤ b.1) || decide (b.1 ≤ a.1)) = true := by
    simp only [Bool.or_eq_true, decide_eq_true_eq]
    omega
  exact (List.pairwise_mergeSort htrans htotal rows).imp of_decide_eq_true

theorem pairwise_visible {q : Query (ℕ × Dataset)} (hq : q.distinct = true) :
    (visible q db).Pairwise fun r s => r.1 < s.1 := by
  have hkeys : ((rowsOf db.datasets).map Prod.fst).Nodup := by
    rw [rowsOf, List.map_map]
    exact db.datasets.nodupKeys
  have hdistinct : (sortedRows (q.rows (rowsOf db.datasets))).Pairwise fun r s => r.1 ≠ s.1 := by
    rw [Query.rows_distinct hq (nodup_rowsOf _)]
    refine (List.mergeSort_perm _ _).symm.pairwise ?_ fun h => h.symm
    exact (List.pairwise_map.1 hkeys).filter _
  have hsorted := pairwise_sortedRows (q.rows (rowsOf db.datasets))
  exact List.pairwise_map.2 ((hsorted.and hdistinct).imp fun h => lt_of_le_of_ne h.1 h.2)

theorem visible_eq {q q' : Query (ℕ × Dataset)} (hq : q.distinct = true) (hq' : q'.distinct = true)
    (h : ∀ row, row ∈ visible q db ↔ row ∈ visible q' db') : visible q db = visible q' db' := by
  have hrows : (visible q db).Pairwise fun r s => r.1 < s.1 := pairwise_visible hq
  have hrows' : (visible q' db').Pairwise fun r s => r.1 < s.1 := pairwise_visible hq'
  have hne : ∀ {r s : ℕ × Entry}, r.1 < s.1 → r ≠ s := fun hlt heq =>
    absurd (heq ▸ hlt) (lt_irrefl _)
  have hperm := (List.perm_ext_iff_of_nodup (hrows.imp hne) (hrows'.imp hne)).2 h
  exact hperm.eq_of_pairwise (fun a b _ _ hab hba => absurd hab (lt_asymm hba)) hrows hrows'

theorem SameFor.narrows (h : SameFor p db db') (terms : List String) (e : Entry) :
    narrows locale db' params terms e = narrows locale db params terms e := by
  unfold Catalogue.narrows matchesTerm
  simp only [h.modules]

/-- **The visible rows are the same.** -/
theorem SameFor.visible (h : SameFor p db db') {terms : List String} {q q' : Query (ℕ × Dataset)}
    (hq : q.distinct = true) (hq' : q'.distinct = true)
    (hsel : ∀ id d, q.selects (id, d) = true ↔
      MayRead db p d ∧ Catalogue.narrows locale db params terms d.toEntry = true)
    (hsel' : ∀ id d, q'.selects (id, d) = true ↔
      MayRead db' p d ∧ Catalogue.narrows locale db' params terms d.toEntry = true) :
    Catalogue.visible q db = Catalogue.visible q' db' := by
  refine visible_eq hq hq' fun row => ?_
  rw [mem_visible, mem_visible]
  simp only [hsel, hsel', h.narrows]
  have hdata := h.datasets row.1 row.2
  constructor
  · rintro ⟨d, hd, ⟨hread, hn⟩, he⟩
    obtain ⟨d', hd', hread', he'⟩ := hdata.1 ⟨d, hd, hread, he⟩
    exact ⟨d', hd', ⟨hread', by rw [he', ← he]; exact hn⟩, he'⟩
  · rintro ⟨d, hd, ⟨hread, hn⟩, he⟩
    obtain ⟨d', hd', hread', he'⟩ := hdata.2 ⟨d, hd, hread, he⟩
    exact ⟨d', hd', ⟨hread', by rw [he', ← he]; exact hn⟩, he'⟩

/-! ### Lists -/

theorem select_unlocked {α : Type} [DecidableEq α] {q : Query α} (hq : q.forUpdate = false)
    (table : List α) : select engine q table = .ok (q.rows table) := by
  cases engine with
  | sqlite => rfl
  | postgresql => simp [select, Query.lockable, hq]

theorem listDatasets_reader (hp : p.isStaff = false) {q : Query (ℕ × Dataset)}
    (hq : filteredDatasets locale db p params = .ok q) (hlock : q.forUpdate = false) :
    listDatasets engine locale db p params = .ok (answer 200 (.datasets
      ((Catalogue.visible q db).mergeSort (rowLe locale (orderTerms params.ordering))))) := by
  unfold listDatasets
  rw [hq, ok_bind, select_unlocked hlock, ok_bind, hp, visible, ← List.map_mergeSort]
  · rfl
  · intro a _ b _
    rfl

/-! ### One dataset -/

theorem retrieveDataset_found (hp : p.isStaff = false) {q : Query (ℕ × Dataset)} {id : ℕ}
    (hq : filteredDatasets locale db p params = .ok q) (hdistinct : q.distinct = true)
    (hlock : q.forUpdate = false) (hd : db.datasets.lookup id = some d)
    (hsel : q.selects (id, d) = true) : retrieveDataset engine locale db p params id =
      .ok ⟨200, .dataset id d.toEntry, some (revisionEtag d.revision)⟩ := by
  have hfound : getOr404 engine q db.datasets id = .ok d :=
    getOr404_eq hd hsel (rows_dedup _ hdistinct) (.inr (by simp [Query.lockable, hlock]))
  rw [retrieveDataset, hq, ok_bind, hfound, ok_bind, datasetContent, hp]
  rfl

theorem retrieveDataset_missing {q : Query (ℕ × Dataset)} {id : ℕ}
    (hq : filteredDatasets locale db p params = .ok q) (hlock : q.forUpdate = false)
    (hnone : ∀ d, db.datasets.lookup id = some d → q.selects (id, d) = false) :
    retrieveDataset engine locale db p params id =
      .error (.response (answer 404 (.detail "Not found."))) := by
  have hrows : (q.filter fun row => row.1 == id).rows (rowsOf db.datasets) = [] := by
    refine List.eq_nil_iff_forall_not_mem.2 fun row hrow => ?_
    obtain ⟨hmem, hsel⟩ := Query.mem_rows.1 hrow
    rw [Query.selects_filter, Bool.and_eq_true, beq_iff_eq] at hsel
    have hlookup := mem_rowsOf.1 hmem
    obtain ⟨i, d⟩ := row
    obtain ⟨hsel, rfl⟩ := hsel
    simp [hnone d hlookup] at hsel
  have hmissing : getOr404 engine q db.datasets id =
      .error (.response (answer 404 (.detail "Not found."))) := by
    have hlock' : (q.filter fun row => row.1 == id).forUpdate = false := hlock
    rw [getOr404, select_unlocked hlock', hrows]
    rfl
  rw [retrieveDataset, hq, ok_bind, hmissing]
  rfl

/-! ### Every answer -/

/-- A query of the view set, without a lock, and the rows that it shows. -/
structure Shows (locale : Locale) (db : Database) (p : Principal) (params : DatasetParams)
    (q : Query (ℕ × Dataset)) : Prop where
  query : filteredDatasets locale db p params = .ok q
  distinct : q.distinct = true
  unlocked : q.forUpdate = false

/-- The queries of a reader on the two databases fail in the same way or show the same rows. -/
theorem shows_of_sameFor (locale : Locale) (params : DatasetParams) (hp : p.isStaff = false)
    (h : SameFor p db db') :
    (∃ e, filteredDatasets locale db p params = .error e ∧
      filteredDatasets locale db' p params = .error e) ∨
    ∃ q q', Shows locale db p params q ∧ Shows locale db' p params q' ∧
      Catalogue.visible q db = Catalogue.visible q' db' := by
  rcases selects_filteredDatasets locale db params hp with ⟨hnone, he⟩ |
    ⟨terms, q, hterms, hq, hd, hl, hs⟩
  · rcases selects_filteredDatasets locale db' params hp with ⟨-, he'⟩ | ⟨terms, q, hterms, -⟩
    · exact .inl ⟨_, he, he'⟩
    · rw [hnone] at hterms
      cases hterms
  · rcases selects_filteredDatasets locale db' params hp with
      ⟨hnone, -⟩ | ⟨terms', q', hterms', hq', hd', hl', hs'⟩
    · rw [hnone] at hterms
      cases hterms
    · cases hterms.symm.trans hterms'
      exact .inr ⟨q, q', ⟨hq, hd, hl⟩, ⟨hq', hd', hl'⟩, h.visible hd hd' hs hs'⟩

/-- The answer to a request for one dataset depends on the visible rows only. -/
theorem retrieveDataset_of_visible {q q' : Query (ℕ × Dataset)} (hp : p.isStaff = false)
    (hq : Shows locale db p params q) (hq' : Shows locale db' p params q')
    (hv : Catalogue.visible q db = Catalogue.visible q' db') (id : ℕ) :
    retrieveDataset engine locale db p params id =
      retrieveDataset engine locale db' p params id := by
  have hsame : ∀ e, (∃ d, db.datasets.lookup id = some d ∧ q.selects (id, d) = true ∧
    d.toEntry = e) ↔
      ∃ d, db'.datasets.lookup id = some d ∧ q'.selects (id, d) = true ∧ d.toEntry = e := by
    intro e
    rw [← @mem_visible db q (id, e), hv, mem_visible]
  by_cases hfound : ∃ d, db.datasets.lookup id = some d ∧ q.selects (id, d) = true
  · obtain ⟨d, hd, hsel⟩ := hfound
    obtain ⟨d', hd', hsel', he⟩ := (hsame d.toEntry).1 ⟨d, hd, hsel, rfl⟩
    rw [retrieveDataset_found hp hq.query hq.distinct hq.unlocked hd hsel,
      retrieveDataset_found hp hq'.query hq'.distinct hq'.unlocked hd' hsel', he]
  · have hmissing : ∀ d, db.datasets.lookup id = some d → q.selects (id, d) = false :=
      fun d hd => Bool.eq_false_iff.2 fun hsel => hfound ⟨d, hd, hsel⟩
    have hmissing' : ∀ d, db'.datasets.lookup id = some d → q'.selects (id, d) = false := by
      intro d hd
      refine Bool.eq_false_iff.2 fun hsel => hfound ?_
      obtain ⟨d', hd', hsel', -⟩ := (hsame d.toEntry).2 ⟨d, hd, hsel, rfl⟩
      exact ⟨d', hd', hsel'⟩
    rw [retrieveDataset_missing hq.query hq.unlocked hmissing,
      retrieveDataset_missing hq'.query hq'.unlocked hmissing']

/-- **A reader who is not staff gets the same answers.** -/
theorem answer_eq_of_sameFor {now : Time} (hp : p.isStaff = false) (h : SameFor p db db')
    (req : DatasetRequest) :
    (req.handle engine locale p now db).1 = (req.handle engine locale p now db').1 := by
  have hdenied : ∀ {f : Unit → Handler (Response × Database)},
      requireStaff p >>= f = .error (.response
        (answer 403 (.detail "You do not have permission to perform this action."))) := by
    intro f
    rw [requireStaff, hp]
    rfl
  have hfinish : ∀ (x : Handler Response), (finish db (x >>= fun r => .ok (r, db))).1 =
      (finish db' (x >>= fun r => .ok (r, db'))).1 := by
    intro x
    rcases x with (r | e) | r <;> rfl
  -- a write is denied before it reads; a read shows the visible entries only
  cases req with
  | create | update | destroy => simp only [DatasetRequest.handle, hdenied, finish]
  | list params =>
    simp only [DatasetRequest.handle]
    have hlist : listDatasets engine locale db p params =
        listDatasets engine locale db' p params := by
      rcases shows_of_sameFor locale params hp h with ⟨e, he, he'⟩ | ⟨q, q', hq, hq', hv⟩
      · rw [listDatasets, he, listDatasets, he']
        rfl
      · rw [listDatasets_reader hp hq.query hq.unlocked,
          listDatasets_reader hp hq'.query hq'.unlocked, hv]
    rw [hlist]
    exact hfinish _
  | retrieve params id =>
    simp only [DatasetRequest.handle]
    have hretrieve : retrieveDataset engine locale db p params id =
        retrieveDataset engine locale db' p params id := by
      rcases shows_of_sameFor locale params hp h with ⟨e, he, he'⟩ | ⟨q, q', hq, hq', hv⟩
      · rw [retrieveDataset, he, retrieveDataset, he']
        rfl
      · exact retrieveDataset_of_visible hp hq hq' hv id
    rw [hretrieve]
    exact hfinish _

/-! ### Accounts of tokens -/

variable {casefold : String → String} {py : FloatText} {repr : Json → String}
  {settings settings' : OidcSettings} {claims claims' : Json} {u u' : TokenUser}

def TokenUser.hashed (u : TokenUser) : List UInt8 :=
  encode (oidcKey (u.oidcIssuer.getD "") (u.oidcSubject.getD ""))

theorem authenticateOidc_ok (h : authenticateOidc casefold py repr settings claims = .ok u) :
    ∃ subject, u.oidcIssuer = some settings.issuer ∧ u.oidcSubject = some subject ∧
      subject.toList.isEmpty = false ∧ subject.toList.contains '\x00' = false := by
  unfold authenticateOidc at h
  obtain ⟨-, -, h⟩ := bind_eq_ok.1 h
  obtain ⟨-, -, h⟩ := bind_eq_ok.1 h
  obtain ⟨-, -, h⟩ := bind_eq_ok.1 h
  obtain ⟨groups, -, h⟩ := bind_eq_ok.1 h
  obtain ⟨-, -, h⟩ := bind_eq_ok.1 h
  split at h
  · cases h
  · next subject hsubject =>
    cases h
    refine ⟨subject, rfl, rfl, ?_⟩
    unfold stableSubject at hsubject
    split at hsubject
    · split_ifs at hsubject with hbad
      cases hsubject
      simp only [Bool.or_eq_true, not_or, Bool.not_eq_true] at hbad
      exact ⟨hbad.1.1.1, hbad.2⟩
    · cases hsubject

/-- The account of an authenticated token is derived from its issuer and its subject. -/
theorem aclUsername_eq (h : authenticateOidc casefold py repr settings claims = .ok u) :
    u.aclUsername = "oidc:" ++ Sha256.hexdigest u.hashed := by
  obtain ⟨subject, hissuer, hsubject, hne, -⟩ := authenticateOidc_ok h
  have hgiven : settings.issuer.toList.isEmpty = false := by
    have hhttps := settings.issuer_https
    cases hlist : settings.issuer.toList with
    | nil => rw [hlist] at hhttps; exact absurd hhttps (by decide)
    | cons => rfl
  simp only [TokenUser.aclUsername, TokenUser.hashed, hissuer, hsubject, given, Option.filter_some,
    hgiven, hne, Bool.not_false, if_true, deriveOidcAclUsername, Option.getD_some]

theorem append_cons_inj {α : Type} {x : α} {a a' b b' : List α} (hb : x ∉ b) (hb' : x ∉ b')
    (h : a ++ x :: b = a' ++ x :: b') : a = a' ∧ b = b' := by
  rcases List.append_eq_append_iff.1 h with ⟨c, rfl, hc⟩ | ⟨c, rfl, hc⟩
  · cases c with
    | nil => exact ⟨(List.append_nil a).symm, (List.cons.inj hc).2⟩
    | cons y c =>
      obtain ⟨rfl, rfl⟩ := List.cons.inj hc
      exact absurd (List.mem_append_right c (.head b')) hb
  · cases c with
    | nil => exact ⟨List.append_nil a', (List.cons.inj hc).2.symm⟩
    | cons y c =>
      obtain ⟨rfl, rfl⟩ := List.cons.inj hc
      exact absurd (List.mem_append_right c (.head b)) hb'

/-- **The account of a token is determined by its issuer and its subject**, and determines them. -/
theorem aclUsername_eq_iff {S : Set (List UInt8)} (hS : Set.InjOn Sha256.hexdigest S)
    (h : authenticateOidc casefold py repr settings claims = .ok u)
    (h' : authenticateOidc casefold py repr settings' claims' = .ok u')
    (hu : u.hashed ∈ S) (hu' : u'.hashed ∈ S) : u.aclUsername = u'.aclUsername ↔
      u.oidcIssuer = u'.oidcIssuer ∧ u.oidcSubject = u'.oidcSubject := by
  constructor
  · intro heq
    rw [aclUsername_eq h, aclUsername_eq h'] at heq
    have hdigest : Sha256.hexdigest u.hashed = Sha256.hexdigest u'.hashed := by
      have hlists := congrArg String.toList heq
      rw [String.toList_append, String.toList_append] at hlists
      exact String.toList_inj.1 (List.append_cancel_left hlists)
    have hkey := encode_injective (hS hu hu' hdigest)
    obtain ⟨subject, hissuer, hsubject, -, hnul⟩ := authenticateOidc_ok h
    obtain ⟨subject', hissuer', hsubject', -, hnul'⟩ := authenticateOidc_ok h'
    rw [hissuer, hissuer', hsubject, hsubject'] at hkey ⊢
    obtain ⟨hi, hs⟩ := append_cons_inj (by simpa using hnul) (by simpa using hnul') hkey
    rw [String.toList_inj] at hi hs
    exact ⟨congrArg some hi, congrArg some hs⟩
  · rintro ⟨hi, hs⟩
    rw [aclUsername_eq h, aclUsername_eq h', TokenUser.hashed, TokenUser.hashed, hi, hs]

/-! ### The readers of the catalogue -/

/-- **A reader learns only about datasets granted to them.** On two databases that are the same for
a principal who is not staff, every request is answered in the same way; and if SHA-256 is injective
on the strings that are hashed, two tokens have the same account exactly if their issuers and their
subjects are equal. -/
theorem reader_learns_only_granted (engine : Engine) (locale : Locale) (S : Set (List UInt8))
    (hS : Set.InjOn Sha256.hexdigest S) :
    (∀ (p : Principal) (now : Time) (db db' : Database), p.isStaff = false → SameFor p db db' →
      ∀ req : DatasetRequest,
        (req.handle engine locale p now db).1 = (req.handle engine locale p now db').1) ∧
    ∀ casefold py repr settings settings' claims claims' u u',
      authenticateOidc casefold py repr settings claims = .ok u →
      authenticateOidc casefold py repr settings' claims' = .ok u' →
      u.hashed ∈ S → u'.hashed ∈ S →
      (u.aclUsername = u'.aclUsername ↔
        u.oidcIssuer = u'.oidcIssuer ∧ u.oidcSubject = u'.oidcSubject) :=
  ⟨fun _ _ _ _ hp h req => answer_eq_of_sameFor hp h req,
    fun _ _ _ _ _ _ _ _ _ h h' hu hu' => aclUsername_eq_iff hS h h' hu hu'⟩

def readerSettings : OidcSettings where
  issuer := "https://id.example"
  audience := "dealhost"
  readGroups := ["readers"]
  adminGroups := []
  groupsClaim := "groups"
  issuer_https := by decide

/-- The claims of a token with this subject; the name is the same for all of them. -/
def readerClaims (subject : String) : Json :=
  .obj [("active", .bool true), ("iss", .str "https://id.example"), ("aud", .str "dealhost"),
    ("groups", .arr [.str "readers"]), ("sub", .str subject), ("preferred_username", .str "ada")]

/-- The user of such a token. -/
def reader (subject : String) : TokenUser where
  username := "ada"
  oidcIssuer := some "https://id.example"
  oidcSubject := some subject
  oidcGroups := ["readers"]

/-- A dataset with an access list. -/
def sampleDataset (name : String) (users groups : Finset ℕ) : Dataset where
  toEntry := Entry.create { name := some name, slug := some name } 1
  users := users
  groups := groups

/-- A catalogue with these datasets. -/
def datasetsDatabase (datasets : Table ℕ Dataset) : Database :=
  { Database.empty with groups := AList.insert 5 ⟨"readers"⟩ ∅, datasets := datasets }

/-- One dataset is granted to the readers, another one to nobody. -/
def secretDatabase : Database := datasetsDatabase
  (AList.insert 2 (sampleDataset "wells" ∅ ∅) (AList.insert 1 (sampleDataset "herd" ∅ {5}) ∅))

/-- The granted dataset is also granted to another account. -/
def sharedDatabase : Database := datasetsDatabase (AList.insert 1 (sampleDataset "herd" {9} {5}) ∅)

theorem mayRead_herd (datasets : Table ℕ Dataset) (users : Finset ℕ) :
    MayRead (datasetsDatabase datasets) (.token (reader "a")) (sampleDataset "herd" users {5}) :=
  ⟨rfl, .inr ⟨5, Finset.mem_singleton_self 5, ⟨"readers"⟩, rfl, by decide⟩⟩

theorem not_mayRead_wells (datasets : Table ℕ Dataset) :
    ¬ MayRead (datasetsDatabase datasets) (.token (reader "a")) (sampleDataset "wells" ∅ ∅) := by
  have hacl : aclUser (datasetsDatabase datasets) (.token (reader "a")) = none := by
    simp only [aclUser]
    split_ifs <;> rfl
  rintro ⟨-, ⟨account, haccount, -⟩ | ⟨g, hg, -⟩⟩
  · cases hacl.symm.trans haccount
  · cases hg

theorem sameFor_reader : SameFor (.token (reader "a")) secretDatabase sharedDatabase where
  users := rfl
  groups := rfl
  modules := rfl
  datasets := by
    intro id e
    simp only [secretDatabase, sharedDatabase]
    constructor
    · rintro ⟨d, hd, hread, rfl⟩
      simp only [datasetsDatabase, Table.lookup_insert_eq] at hd
      split_ifs at hd with htwo hone
      · cases hd
        exact absurd hread (not_mayRead_wells _)
      · cases hd
        subst hone
        exact ⟨_, rfl, mayRead_herd _ _, rfl⟩
      · cases hd
    · rintro ⟨d, hd, hread, rfl⟩
      simp only [datasetsDatabase, Table.lookup_insert_eq] at hd
      split_ifs at hd with hone
      · cases hd
        subst hone
        exact ⟨_, rfl, mayRead_herd _ _, rfl⟩
      · cases hd

/-- The reader cannot tell the two catalogues apart, and two tokens with one name have different
accounts. -/
theorem reader_learns_only_granted_sample :
    (∀ req : DatasetRequest,
      (req.handle .postgresql plainLocale (.token (reader "a")) 2 secretDatabase).1 =
        (req.handle .postgresql plainLocale (.token (reader "a")) 2 sharedDatabase).1) ∧
    (reader "a").aclUsername ≠ (reader "b").aclUsername := by
  have hne : Sha256.hexdigest (reader "a").hashed ≠ Sha256.hexdigest (reader "b").hashed := by
    decide +kernel
  have hS : Set.InjOn Sha256.hexdigest {(reader "a").hashed, (reader "b").hashed} := by
    rintro x (rfl | rfl) y (rfl | rfl) hxy
    · rfl
    · exact absurd hxy hne
    · exact absurd hxy.symm hne
    · rfl
  obtain ⟨hanswers, haccounts⟩ := reader_learns_only_granted .postgresql plainLocale _ hS
  refine ⟨hanswers _ 2 _ _ rfl sameFor_reader, fun heq => ?_⟩
  have htoken : ∀ subject, subject ∈ ["a", "b"] → authenticateOidc (fun s => s)
      ⟨fun f => f.text, fun _ => some 0⟩ (fun _ => "") readerSettings (readerClaims subject) =
        .ok (reader subject) := by
    decide +kernel
  have hsame := (haccounts _ _ _ _ _ _ _ _ _ (htoken "a" (by decide)) (htoken "b" (by decide))
    (.inl rfl) (.inr rfl)).1 heq
  exact absurd hsame.2 (by decide)

end ArchiDeal.Catalogue
