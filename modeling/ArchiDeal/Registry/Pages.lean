import ArchiDeal.Registry.Updates
import ArchiDeal.Lib.Keyset
import ArchiDeal.Lib.Like

/-!
# The pages of the device registry

`list_devices` of `management_console/device_registry.py`: a client repeats the call with the
`next_cursor` of the last answer until there is none, while other clients create, update and retire
devices.

* `Postgres.Ordered`: `ORDER BY device_id` and `device_id > cursor` mean one total order;
* `Constrained`: the primary key and the check `devices_device_id_format` of `public.devices`, which
  every step keeps;
* `answers_iff`: which filters are answered, and with what;
* `pages_cover_devices`: every device that matches throughout is listed exactly once.
-/

namespace ArchiDeal.Registry

open Text Transition Keyset

variable {db : Postgres} {casefold : Char → List Char} {s s' : Store}

/-! ### The order of the identifiers -/

structure Postgres.Ordered (db : Postgres) : Prop where
  total : ∀ a b, db.collate a b = true ∨ db.collate b a = true
  trans : ∀ a b c, db.collate a b = true → db.collate b c = true → db.collate a c = true
  antisymm : ∀ a b, db.collate a b = true → db.collate b a = true → a = b

/-- `b > a`. -/
def Postgres.Before (db : Postgres) (a b : String) : Prop := db.collate b a = false

instance : DecidableRel db.Before := fun a b => inferInstanceAs (Decidable (db.collate b a = false))

theorem before_irrefl (h : db.Ordered) (a : String) : ¬ db.Before a a := by
  intro hlt
  cases ((h.total a a).elim id id).symm.trans hlt

theorem before_trans (h : db.Ordered) (a b c : String) (hab : db.Before a b)
    (hbc : db.Before b c) : db.Before a c := by
  refine Bool.eq_false_iff.2 fun hca => ?_
  have hle : db.collate a b = true := (h.total a b).resolve_right (Bool.eq_false_iff.1 hab)
  cases (h.trans c a b hca hle).symm.trans hbc

theorem before_of_ne (h : db.Ordered) {a b : String} (hle : db.collate a b = true) (hne : a ≠ b) :
    db.Before a b :=
  Bool.eq_false_iff.2 fun hge => hne (h.antisymm a b hle hge)

/-! ### The constraints of the table -/

def isDeviceId (id : String) : Bool := headed alphaDigit identifierChar 0 127 id.toList

/-- The primary key of `public.devices` and its check of `device_id`. -/
structure Constrained (devices : Table String Device) : Prop where
  keyed : Keyed devices
  formatted : ∀ id d, devices.lookup id = some d → isDeviceId id = true

theorem validateDeviceId_iff {id identifier : String} :
    validateDeviceId (.str id) = .ok identifier ↔ isDeviceId id = true ∧ identifier = id := by
  simp only [validateDeviceId, isDeviceId]
  split_ifs with h
  · simp [h, eq_comm]
  · simp [h]

theorem isDeviceId_of_create {payload : Payload} {values : NewDevice}
    (h : validateCreatePayload casefold payload = .ok values) :
    isDeviceId values.deviceId = true := by
  obtain ⟨fields, -, h⟩ := bind_eq_ok.1 h
  obtain ⟨deviceId, hid, h⟩ := bind_eq_ok.1 h
  split at h
  · cases h
  · cases h
  · cases h
    cases hvalue : (payload.lookup "device_id").getD .null with
    | str value =>
      rw [hvalue] at hid
      obtain ⟨hformat, rfl⟩ := validateDeviceId_iff.1 hid
      exact hformat
    | _ => rw [hvalue] at hid; cases hid

theorem deviceId_of_insert {devices : Table String Device} {values : NewDevice} {principal : String}
    {now : ℕ} {row : Device} {reported reported' : Bool}
    (h : Statement.execute db devices now reported (.insert values principal) =
      .accepted row reported') : row.deviceId = values.deviceId := by
  simp only [Statement.execute] at h
  split at h
  · cases h
  · cases h
  · next hrow =>
    cases h
    unfold insertDevice at hrow
    split at hrow
    · cases hrow
    · next stored principal' hstored =>
      obtain ⟨displayName, -, hstored⟩ := Option.bind_eq_some_iff.1 hstored
      obtain ⟨settings, -, hstored⟩ := Option.bind_eq_some_iff.1 hstored
      obtain ⟨labels, -, hstored⟩ := Option.bind_eq_some_iff.1 hstored
      obtain ⟨principal, -, hstored⟩ := Option.bind_eq_some_iff.1 hstored
      cases hstored
      split_ifs at hrow
      · cases hrow
      · cases hrow
        rfl

theorem isDeviceId_of_accepted {call : Call} {now : ℕ} {link : Link} {row : Device}
    {reported : Bool} (hkeyed : Keyed s.devices)
    (h : s.outcome db casefold call now link = .accepted row reported) :
    isDeviceId row.deviceId = true := by
  have hwrites : (s.outcome db casefold call now link).Sound db casefold now call s.devices :=
    sound_outcome hkeyed call now link
  rw [h] at hwrites
  unfold Store.outcome at h
  split at h
  · cases h
  · next statement hprepare =>
    split_ifs at h
    cases call with
    | create payload actor =>
      obtain ⟨values, hvalues, hprepare⟩ := bind_eq_ok.1 hprepare
      obtain ⟨principal, -, hprepare⟩ := bind_eq_ok.1 hprepare
      cases hprepare
      rw [deviceId_of_insert h]
      exact isDeviceId_of_create hvalues
    | update | retire =>
      obtain ⟨identifier, hid, -⟩ := bind_eq_ok.1 hprepare
      rw [hwrites.1]
      exact (validateDeviceId_iff.1 hid).1
    | get | list => exact hwrites.elim

/-- **A step keeps the constraints of the table.** -/
theorem constrained_step {a : Action} (hs : Constrained s.devices)
    (h : s.step db casefold a = some s') : Constrained s'.devices := by
  cases a with
  | classify client link =>
    obtain ⟨p, -, rfl⟩ := Option.map_eq_some_iff.1 h
    exact hs
  | call client call now link =>
    simp only [Store.step] at h
    split_ifs at h
    cases h
    cases ho : s.outcome db casefold call now link with
    | accepted row reported =>
      simp only [Store.record]
      constructor
      · intro id d hd
        rw [Table.lookup_insert_eq] at hd
        split_ifs at hd with hid
        · cases hd
          exact hid.symm
        · exact hs.keyed id d hd
      · intro id d hd
        rw [Table.lookup_insert_eq] at hd
        split_ifs at hd with hid
        · rw [hid]
          exact isDeviceId_of_accepted hs.keyed ho
        · exact hs.formatted id d hd
    | returned | missed | refused => exact hs

theorem constrained_reach (hs : Constrained s.devices)
    (run : Reach (Store.step db casefold) Free s s') : Constrained s'.devices :=
  run.invariant (fun t => Constrained t.devices) hs fun _ ht _ next => constrained_step ht next

/-! ### Filters -/

/-- The filter passes every check of `list_devices`, and the database can take its text. -/
def Listing.Accepted (l : Listing) : Prop :=
  (∀ status ∈ l.status, status ∈ ["provisioning", "active", "suspended"]) ∧
  (∀ kind ∈ l.kind, headed (fun c => 'a' ≤ c && c ≤ 'z') kindChar 0 63 kind.toList = true) ∧
  ∀ query ∈ l.query, strip query ≠ "" ∧ (strip query).toList.length ≤ 160 ∧
    '\x00' ∉ (strip query).toList

/-- The device is one of those that the filter asks for. -/
def Listing.Matches (db : Postgres) (l : Listing) (d : Device) : Prop :=
  d.retiredAt = none ∧
  (∀ status ∈ l.status, validateStatus (.str status) = .ok d.status) ∧
  (∀ kind ∈ l.kind, kind = d.kind) ∧
  ∀ query ∈ l.query, db.ilike d.deviceId ("%" ++ escapeQuery (strip query) ++ "%") = true ∨
    db.ilike d.displayName ("%" ++ escapeQuery (strip query) ++ "%") = true

/-- The rows that the filter asks for. -/
def Store.Content (db : Postgres) (l : Listing) (s : Store) (d : Device) : Prop :=
  (∃ id, s.devices.lookup id = some d) ∧ l.Matches db d

/-- A call of `list_devices` with this cursor returns these rows and this `next_cursor`. -/
def Answers (db : Postgres) (casefold : Char → List Char) (l : Listing) (s : Store)
    (cursor : Option String) (rows : List Device) (next : Option String) : Prop :=
  ∃ now, s.outcome db casefold (.list { l with cursor }) now .up = .returned rows next

/-- The status of a text that `_validate_status` accepts. -/
def statusOf : String → Status
  | "active" => .active
  | "suspended" => .suspended
  | _ => .provisioning

theorem validateStatus_iff {text : String} {status : Status} :
    validateStatus (.str text) = .ok status ↔
      text ∈ ["provisioning", "active", "suspended"] ∧ status = statusOf text := by
  unfold validateStatus
  split
  · next h => cases h; simp [statusOf, eq_comm]
  · next h => cases h; simp [statusOf, eq_comm]
  · next h => cases h; simp [statusOf, eq_comm]
  · next h => cases h
  · next h => cases h
  · next hprovisioning hactive hsuspended _ _ =>
    have h₁ : text ≠ "provisioning" := fun h => hprovisioning (h ▸ rfl)
    have h₂ : text ≠ "active" := fun h => hactive (h ▸ rfl)
    have h₃ : text ≠ "suspended" := fun h => hsuspended (h ▸ rfl)
    simp [h₁, h₂, h₃]

theorem validateKind_iff {text kind : String} : validateKind (.str text) = .ok kind ↔
    headed (fun c => 'a' ≤ c && c ≤ 'z') kindChar 0 63 text.toList = true ∧ kind = text := by
  simp only [validateKind]
  split_ifs with h
  · simp [h, eq_comm]
  · simp [h]

theorem searchPattern_iff {query pattern : String} : searchPattern query = .ok pattern ↔
    (strip query ≠ "" ∧ (strip query).toList.length ≤ 160) ∧
      pattern = "%" ++ escapeQuery (strip query) ++ "%" := by
  simp only [searchPattern]
  split_ifs with h
  · simp only [false_iff, not_and]
    intro hlength
    simp only [Bool.or_eq_true, List.isEmpty_iff, decide_eq_true_eq] at h
    rcases h with h | h
    · exact absurd (String.toList_eq_nil_iff.1 h) hlength.1
    · omega
  · simp only [Bool.or_eq_true, List.isEmpty_iff, decide_eq_true_eq, not_or, not_lt] at h
    constructor
    · intro heq
      cases heq
      exact ⟨⟨mt String.toList_eq_nil_iff.2 h.1, h.2⟩, rfl⟩
    · rintro ⟨-, rfl⟩
      rfl

theorem whenGiven_iff {α : Type} {value : Option String}
    {validator : String → Except RegistryError α}
    {P : String → Prop} {f : String → α} (h : ∀ v a, validator v = .ok a ↔ P v ∧ a = f v)
    {o : Option α} : whenGiven value validator = .ok o ↔ (∀ v ∈ value, P v) ∧ o = value.map f := by
  cases value with
  | none => simp [whenGiven, eq_comm]
  | some v =>
    simp only [whenGiven, map_eq_ok, h, Option.map_some, Option.mem_some_iff, forall_eq']
    constructor
    · rintro ⟨a, ⟨hP, rfl⟩, rfl⟩
      exact ⟨hP, rfl⟩
    · rintro ⟨hP, rfl⟩
      exact ⟨_, ⟨hP, rfl⟩, rfl⟩

/-- The clauses of an accepted filter. -/
def Listing.clauses (l : Listing) (cursor : Option String) : Clauses where
  status := l.status.map statusOf
  kind := l.kind
  search := l.query.map fun query => "%" ++ escapeQuery (strip query) ++ "%"
  cursor
  limit := l.limit.toNat

theorem clausesOf_iff {l : Listing} {c : Clauses} : clausesOf l = .ok c ↔
    (1 ≤ l.limit ∧ l.limit ≤ 200) ∧
    (∀ status ∈ l.status, status ∈ ["provisioning", "active", "suspended"]) ∧
    (∀ kind ∈ l.kind, headed (fun c => 'a' ≤ c && c ≤ 'z') kindChar 0 63 kind.toList = true) ∧
    (∀ query ∈ l.query, strip query ≠ "" ∧ (strip query).toList.length ≤ 160) ∧
    (∀ cursor ∈ l.cursor, isDeviceId cursor = true) ∧ c = l.clauses l.cursor := by
  simp only [clausesOf, bind_eq_ok, ensure_eq_ok, pure_eq_ok,
    whenGiven_iff fun _ _ => validateStatus_iff, whenGiven_iff fun _ _ => validateKind_iff,
    whenGiven_iff fun _ _ => searchPattern_iff, whenGiven_iff fun _ _ => validateDeviceId_iff]
  constructor
  · rintro ⟨-, hlimit, -, ⟨hstatus, rfl⟩, -, ⟨hkind, rfl⟩, -, ⟨hquery, rfl⟩, -, ⟨hcursor, rfl⟩, rfl⟩
    refine ⟨by simpa using hlimit, hstatus, hkind, hquery, hcursor, ?_⟩
    simp [Listing.clauses]
  · rintro ⟨hlimit, hstatus, hkind, hquery, hcursor, rfl⟩
    refine ⟨(), by simpa using hlimit, _, ⟨hstatus, rfl⟩, _, ⟨hkind, rfl⟩, _, ⟨hquery, rfl⟩, _,
      ⟨hcursor, rfl⟩, ?_⟩
    simp [Listing.clauses]

theorem select_clauses {l : Listing} {cursor : Option String} {d : Device}
    (hstatus : ∀ status ∈ l.status, status ∈ ["provisioning", "active", "suspended"]) :
    (l.clauses cursor).select db d = true ↔
      l.Matches db d ∧ Past db.Before cursor d.deviceId := by
  have hstatuses : (l.status.map statusOf).all (· == d.status) = true ↔
      ∀ status ∈ l.status, validateStatus (.str status) = .ok d.status := by
    simp only [validateStatus_iff]
    cases hl : l.status with
    | none => simp
    | some status =>
      simp only [Option.map_some, Option.all_some, beq_iff_eq, Option.mem_some_iff, forall_eq']
      exact ⟨fun h => ⟨hstatus status hl, h.symm⟩, fun h => h.2.symm⟩
  simp only [Clauses.select, Listing.clauses, Bool.and_eq_true, hstatuses, Device.live,
    Option.isNone_iff_eq_none, Listing.Matches, Past, and_assoc, Postgres.Before]
  cases l.kind <;> cases l.query <;> cases cursor <;> simp

/-! ### One call -/

/-- The rows that the filter asks for past a cursor, in their order. -/
def Store.matching (db : Postgres) (l : Listing) (s : Store) (cursor : Option String) :
    List Device :=
  ((s.devices.entries.map (·.2)).filter ((l.clauses cursor).select db)).mergeSort
    fun d e => db.collate d.deviceId e.deviceId

theorem mem_matching {l : Listing} {cursor : Option String} (hl : l.Accepted) (d : Device) :
    d ∈ s.matching db l cursor ↔ s.Content db l d ∧ Past db.Before cursor d.deviceId := by
  have hrow : d ∈ s.devices.entries.map (·.2) ↔ ∃ id, s.devices.lookup id = some d := by
    simp only [List.mem_map, Table.lookup_eq_some_iff]
    constructor
    · rintro ⟨⟨id, d⟩, hentry, rfl⟩
      exact ⟨id, hentry⟩
    · rintro ⟨id, hentry⟩
      exact ⟨⟨id, d⟩, hentry, rfl⟩
  rw [Store.matching, List.mem_mergeSort, List.mem_filter, hrow, select_clauses hl.1, Store.Content,
    and_assoc]

theorem nodup_deviceIds {devices : Table String Device} (h : Keyed devices) :
    ((devices.entries.map (·.2)).map Device.deviceId).Nodup := by
  have hkeys : (devices.entries.map (·.2)).map Device.deviceId = devices.entries.keys := by
    rw [List.map_map, List.keys]
    refine List.map_congr_left fun e he => ?_
    exact h e.1 e.2 (Table.lookup_eq_some_iff.2 he)
  rw [hkeys]
  exact devices.nodupKeys

theorem sorted_matching {l : Listing} {cursor : Option String} (hdb : db.Ordered)
    (hkeyed : Keyed s.devices) :
    (s.matching db l cursor).Pairwise fun d e => db.Before d.deviceId e.deviceId := by
  have hle : (s.matching db l cursor).Pairwise fun d e => db.collate d.deviceId e.deviceId = true :=
    List.pairwise_mergeSort (fun a b c => hdb.trans a.deviceId b.deviceId c.deviceId)
      (fun a b => by simpa using hdb.total a.deviceId b.deviceId) _
  have hne : (s.matching db l cursor).Pairwise fun d e => d.deviceId ≠ e.deviceId := by
    have hrows := (nodup_deviceIds hkeyed).sublist (List.Sublist.map Device.deviceId
      (List.filter_sublist (p := (l.clauses cursor).select db)))
    exact List.pairwise_map.1 ((List.mergeSort_perm _ _).map Device.deviceId |>.nodup_iff.2 hrows)
  exact hle.imp₂ (fun _ _ => before_of_ne hdb) hne

/-- The page of a list that was cut off after its first row of look-ahead. -/
theorem pageOf_take (limit : ℕ) (rows : List Device) :
    pageOf limit (rows.take (limit + 1)) =
      .returned (rows.take limit) (nextCursor Device.deviceId limit rows) := by
  have htake : (rows.take (limit + 1)).take limit = rows.take limit := by
    rw [List.take_take, Nat.min_eq_left (Nat.le_succ limit)]
  have hmore : limit < (rows.take (limit + 1)).length ↔ limit < rows.length := by
    rw [List.length_take]
    omega
  simp only [pageOf, htake, hmore, nextCursor]

theorem isSome_storedText {text : String} : (storedText text).isSome ↔ '\x00' ∉ text.toList := by
  simp [storedText]

/-- No replacement meets what an earlier one has put in: each special character gets its backslash
once. -/
theorem toList_escapeQuery (query : String) :
    (escapeQuery query).toList = Like.escape query.toList := by
  rw [escapeQuery, String.toList_ofList]
  induction query.toList with
  | nil => rfl
  | cons c cs ih =>
    simp only [replaceChar, Like.escape, List.flatMap_cons, List.flatMap_append] at ih ⊢
    rw [ih]
    congr 1
    by_cases hbackslash : c = '\\'
    · subst hbackslash; rfl
    · by_cases hpercent : c = '%'
      · subst hpercent; rfl
      · by_cases hunderscore : c = '_'
        · subst hunderscore; rfl
        · simp [Like.special, hbackslash, hpercent, hunderscore]

theorem nul_notMem_pattern {query : String} :
    '\x00' ∉ ("%" ++ escapeQuery query ++ "%").toList ↔ '\x00' ∉ query.toList := by
  simp only [String.toList_append, toList_escapeQuery, Like.escape, List.mem_append,
    List.mem_flatMap]
  constructor
  · intro h hmem
    exact h (.inl (.inr ⟨'\x00', hmem, by decide⟩))
  · rintro h ((hmem | ⟨c, hc, hmem⟩) | hmem)
    · revert hmem; decide
    · have hnul : '\x00' = c := by
        split_ifs at hmem <;> simpa using hmem
      exact h (hnul ▸ hc)
    · revert hmem; decide

/-- **What `list_devices` answers**: a page of the matching rows past the cursor, if the filter is
accepted and the cursor is a device identifier. -/
theorem answers_iff {l : Listing} {cursor next : Option String} {rows : List Device} :
    Answers db casefold l s cursor rows next ↔
      ((1 ≤ l.limit ∧ l.limit ≤ 200) ∧ l.Accepted ∧ ∀ c ∈ cursor, isDeviceId c = true) ∧
      rows = (s.matching db l cursor).take l.limit.toNat ∧
      next = nextCursor Device.deviceId l.limit.toNat (s.matching db l cursor) := by
  have hsearch : (l.clauses cursor).search.all (fun pattern => (storedText pattern).isSome) = true ↔
      ∀ query ∈ l.query, '\x00' ∉ (strip query).toList := by
    cases hq : l.query with
    | none => simp [Listing.clauses, hq]
    | some query =>
      simp only [Listing.clauses, hq, Option.map_some, Option.all_some, Option.mem_some_iff,
        forall_eq', isSome_storedText, nul_notMem_pattern]
  -- the statement fails only on a pattern with a zero character
  have hexecute (now : ℕ) : Statement.execute db s.devices now true (.page (l.clauses cursor)) =
      .returned rows next ↔ (∀ query ∈ l.query, '\x00' ∉ (strip query).toList) ∧
        rows = (s.matching db l cursor).take l.limit.toNat ∧
        next = nextCursor Device.deviceId l.limit.toNat (s.matching db l cursor) := by
    simp only [Statement.execute]
    rw [← hsearch]
    split_ifs with h
    · rw [show selectPage db s.devices (l.clauses cursor) =
        (s.matching db l cursor).take (l.limit.toNat + 1) from rfl]
      rw [show (l.clauses cursor).limit = l.limit.toNat from rfl, pageOf_take]
      simp [h, eq_comm]
    · simp [h]
  constructor
  · rintro ⟨now, h⟩
    unfold Store.outcome at h
    split at h
    · cases h
    · next statement hprepare =>
      obtain ⟨c, hc, rfl⟩ := map_eq_ok.1 hprepare
      obtain ⟨hlimit, hstatus, hkind, hquery, hcursor, rfl⟩ := clausesOf_iff.1 hc
      obtain ⟨hnul, hrows⟩ := (hexecute now).1 h
      refine ⟨⟨hlimit, ⟨hstatus, hkind, fun query hq => ?_⟩, hcursor⟩, hrows⟩
      exact ⟨(hquery query hq).1, (hquery query hq).2, hnul query hq⟩
  · rintro ⟨⟨hlimit, ⟨hstatus, hkind, hquery⟩, hcursor⟩, hrows⟩
    have hc : clausesOf { l with cursor } = .ok (l.clauses cursor) := clausesOf_iff.2
      ⟨hlimit, hstatus, hkind, fun query hq => ⟨(hquery query hq).1, (hquery query hq).2.1⟩,
        hcursor, rfl⟩
    refine ⟨0, ?_⟩
    rw [Store.outcome, Call.prepare, hc]
    exact (hexecute 0).2 ⟨fun query hq => (hquery query hq).2.2, hrows⟩

theorem answers_matching (casefold : Char → List Char) {l : Listing} {cursor : Option String}
    (hlimit : 1 ≤ l.limit ∧ l.limit ≤ 200) (hl : l.Accepted)
    (hcursor : ∀ c ∈ cursor, isDeviceId c = true) :
    Answers db casefold l s cursor ((s.matching db l cursor).take l.limit.toNat)
      (nextCursor Device.deviceId l.limit.toNat (s.matching db l cursor)) :=
  answers_iff.2 ⟨⟨hlimit, hl, hcursor⟩, rfl, rfl⟩

theorem isPage_of_answers {l : Listing} {cursor next : Option String} {rows : List Device}
    (hdb : db.Ordered) (hkeyed : Keyed s.devices) (h : Answers db casefold l s cursor rows next) :
    IsPage db.Before Device.deviceId (s.Content db l) cursor rows next := by
  obtain ⟨⟨hlimit, hl, -⟩, rfl, rfl⟩ := answers_iff.1 h
  exact isPage_take (by omega) (mem_matching hl) (sorted_matching hdb hkeyed)

/-! ### Whole listings -/

theorem content_congr {l : Listing} (h : s'.devices = s.devices) :
    s'.Content db l = s.Content db l := by
  funext d
  rw [Store.Content, h, Store.Content]

theorem exists_listing_of_accepted {l : Listing} (hdb : db.Ordered)
    (hlimit : 1 ≤ l.limit ∧ l.limit ≤ 200) (hl : l.Accepted) (hs : Constrained s.devices) :
    ∃ visits, Keyset.Listing (Answers db casefold l) (fun t t' => t'.devices = t.devices) none s
      visits := by
  have hrows : (· ∈ s.matching db l none) = s.Content db l := by
    funext d
    rw [mem_matching hl]
    exact propext ⟨And.left, fun h => ⟨h, nofun⟩⟩
  have hanswer : ∀ cursor : Option String, (∀ c ∈ cursor, isDeviceId c = true) → ∃ page next,
      Answers db casefold l s cursor page next ∧
        IsPage db.Before Device.deviceId (· ∈ s.matching db l none) cursor page next := by
    intro cursor hcursor
    have h : Answers db casefold l s cursor _ _ := answers_matching casefold hlimit hl hcursor
    refine ⟨_, _, h, ?_⟩
    rw [hrows]
    exact isPage_of_answers hdb hs.keyed h
  have hids : ∀ d ∈ s.matching db l none, isDeviceId d.deviceId = true := by
    intro d hd
    obtain ⟨id, hid⟩ := ((mem_matching hl d).1 hd).1.1
    exact hs.keyed id d hid ▸ hs.formatted id d hid
  obtain ⟨visits, hvisits, -⟩ := exists_listing (before_irrefl hdb) (before_trans hdb)
    (fun t t' => t'.devices = t.devices) rfl hanswer hids none nofun
  exact ⟨visits, hvisits⟩

/-- **Registry pages cover every device once.** An accepted filter is answered, and so is every call
that goes on from its answers. When nothing changes, the calls come to an end and return exactly the
active matching devices, in increasing order of their identifiers. When other clients act between
the calls, no device is returned twice, and one that matches at every call is returned exactly
once. -/
theorem pages_cover_devices (casefold : Char → List Char) (hdb : db.Ordered) (l : Listing)
    (hlimit : 1 ≤ l.limit ∧ l.limit ≤ 200) (hs : Constrained s.devices) :
    ((∃ rows next, Answers db casefold l s none rows next) ↔ l.Accepted) ∧
    (∀ cursor rows next t, Answers db casefold l s cursor rows (some next) →
      Reach (Store.step db casefold) Free s t →
      ∃ rows' next', Answers db casefold l t (some next) rows' next') ∧
    (l.Accepted → ∃ visits, Keyset.Listing (Answers db casefold l)
      (fun t t' => t'.devices = t.devices) none s visits) ∧
    (∀ visits, Keyset.Listing (Answers db casefold l) (fun t t' => t'.devices = t.devices) none s
        visits →
      (listed visits).Pairwise (fun d e => db.Before d.deviceId e.deviceId) ∧
      ∀ d, d ∈ listed visits ↔ s.Content db l d) ∧
    ∀ visits, Keyset.Listing (Answers db casefold l) (Reach (Store.step db casefold) Free) none s
        visits →
      (listed visits).Pairwise (fun d e => db.Before d.deviceId e.deviceId) ∧
      ((listed visits).map Device.deviceId).Nodup ∧
      (∀ v ∈ visits, ∀ d ∈ v.2, v.1.Content db l d) ∧
      ∀ id, (∀ v ∈ visits, ∃ d, v.1.Content db l d ∧ d.deviceId = id) →
        ((listed visits).map Device.deviceId).count id = 1 := by
  refine ⟨⟨?_, ?_⟩, ?_, fun hl => exists_listing_of_accepted hdb hlimit hl hs, ?_, ?_⟩
  · rintro ⟨rows, next, h⟩
    exact (answers_iff.1 h).1.2.1
  · intro hl
    exact ⟨_, _, answers_matching casefold hlimit hl nofun⟩
  · intro cursor rows next t h run
    -- the cursor is the identifier of a row, which has the format of one
    obtain ⟨d, hd, rfl⟩ := ((isPage_of_answers hdb hs.keyed h).upTo next rfl).1
    obtain ⟨id, hid⟩ := ((isPage_of_answers hdb hs.keyed h).sound d hd).1
    have hformat : isDeviceId d.deviceId = true := hs.keyed id d hid ▸ hs.formatted id d hid
    refine ⟨_, _, answers_matching casefold hlimit (answers_iff.1 h).1.2.1 ?_⟩
    intro c hc
    cases hc
    exact hformat
  · intro visits h
    have hpage : ∀ (t : Store) cursor rows next, t.devices = s.devices →
        Answers db casefold l t cursor rows next →
        IsPage db.Before Device.deviceId (s.Content db l) cursor rows next := by
      intro t cursor rows next ht answer
      rw [← content_congr ht]
      exact isPage_of_answers hdb (ht ▸ hs.keyed) answer
    have hmove : ∀ t t' : Store, t.devices = s.devices → t'.devices = t.devices →
        t'.devices = s.devices := fun t t' ht ht' => ht'.trans ht
    refine ⟨h.sorted (before_trans hdb) hpage hmove rfl, fun d => ⟨fun hd => ?_, fun hd => ?_⟩⟩
    · obtain ⟨v, hv, hd⟩ := mem_listed.1 hd
      exact h.sound hpage hmove rfl v hv d hd
    · obtain ⟨v, hv, e, he, hkey⟩ := h.complete hpage hmove rfl nofun fun v _ => ⟨d, hd, rfl⟩
      obtain ⟨id, hid⟩ := hd.1
      obtain ⟨id', hid'⟩ := (h.sound hpage hmove rfl v hv e he).1
      have hsame : id' = id := by
        rw [← hs.keyed id d hid, ← hs.keyed id' e hid', hkey]
      cases hsame
      cases hid.symm.trans hid'
      exact mem_listed.2 ⟨v, hv, he⟩
  · intro visits h
    have hpage : ∀ (t : Store) cursor rows next, Constrained t.devices →
        Answers db casefold l t cursor rows next →
        IsPage db.Before Device.deviceId (t.Content db l) cursor rows next :=
      fun t cursor rows next ht answer => isPage_of_answers hdb ht.keyed answer
    have hmove : ∀ t t' : Store, Constrained t.devices →
        Reach (Store.step db casefold) Free t t' → Constrained t'.devices :=
      fun t t' ht run => constrained_reach ht run
    have hsorted := h.sorted (before_trans hdb) hpage hmove hs
    have hnodup : ((listed visits).map Device.deviceId).Nodup := by
      refine List.pairwise_map.2 (hsorted.imp fun {d e} hlt heq => ?_)
      exact before_irrefl hdb e.deviceId (heq ▸ hlt)
    refine ⟨hsorted, hnodup, h.sound hpage hmove hs, fun id hid => ?_⟩
    obtain ⟨v, hv, d, hd, rfl⟩ := h.complete hpage hmove hs nofun hid
    exact List.count_eq_one_of_mem hnodup
      (List.mem_map_of_mem (mem_listed.2 ⟨v, hv, hd⟩))

theorem ordered_plainPostgres : plainPostgres.Ordered where
  total a b := by simpa [plainPostgres] using le_total a b
  trans a b c := by simpa [plainPostgres] using le_trans
  antisymm a b := by simpa [plainPostgres] using fun h : a ≤ b => h.antisymm

def threeCollars : Store where
  devices := ["collar-1", "collar-2", "collar-3"].foldl (fun devices id => devices.insert id
    { newRow ⟨id, "Collar", "collar", .active, none, [], [], []⟩ "alice" 1 with
      retiredAt := if id = "collar-2" then some 2 else none }) ∅
  pending := ∅
  events := []

theorem constrained_threeCollars : Constrained threeCollars.devices := by
  have hrows : ∀ e ∈ threeCollars.devices.entries,
      e.2.deviceId = e.1 ∧ isDeviceId e.1 = true := by
    decide +kernel
  constructor
  · intro id d hd
    exact (hrows ⟨id, d⟩ (Table.lookup_eq_some_iff.1 hd)).1
  · intro id d hd
    exact (hrows ⟨id, d⟩ (Table.lookup_eq_some_iff.1 hd)).2

/-- The active collars, one on a page. -/
def oneByOne : Listing := ⟨some "active", none, none, 1, none⟩

theorem pages_cover_devices_threeCollars : oneByOne.Accepted ∧ ∃ visits,
    Keyset.Listing (Answers plainPostgres (fun c => [c.toLower]) oneByOne)
      (fun t t' => t'.devices = t.devices) none threeCollars visits ∧
    ∀ d, d ∈ listed visits ↔ threeCollars.Content plainPostgres oneByOne d := by
  have haccepted : oneByOne.Accepted := by
    simp [Listing.Accepted, oneByOne]
  obtain ⟨-, -, hends, hstatic, -⟩ := pages_cover_devices (fun c => [c.toLower])
    ordered_plainPostgres oneByOne (by decide) constrained_threeCollars
  obtain ⟨visits, hvisits⟩ := hends haccepted
  exact ⟨haccepted, visits, hvisits, (hstatic visits hvisits).2⟩

/-! ### Search -/

/-- The text occurs in the other one, up to case. -/
def Occurs (fold : Char → List Char) (text within : String) : Prop :=
  text.toList.flatMap fold <:+: within.toList.flatMap fold

instance (fold : Char → List Char) (text within : String) : Decidable (Occurs fold text within) :=
  inferInstanceAs (Decidable (_ <:+: _))

/-- The `ILIKE` of the database folds case in this way. -/
def Postgres.Folds (db : Postgres) (fold : Char → List Char) : Prop :=
  ∀ text pattern found, Like.ilike fold text.toList pattern.toList = some found →
    db.ilike text pattern = found

/-- **Registry search is a literal substring search.** The pattern of an accepted query is valid and
matches a text if and only if the trimmed query occurs in it, up to case; so the search clause
selects the devices with the query in their identifier or in their display name. -/
theorem search_is_literal {fold : Char → List Char} (hfold : Like.Neutral fold)
    (hdb : db.Folds fold) {query pattern : String} (h : searchPattern query = .ok pattern)
    (d : Device) :
    (∀ text ∈ [d.deviceId, d.displayName], Like.ilike fold text.toList pattern.toList =
      some (decide (Occurs fold (strip query) text))) ∧
    (db.ilike d.deviceId pattern || db.ilike d.displayName pattern) =
      decide (Occurs fold (strip query) d.deviceId ∨ Occurs fold (strip query) d.displayName) := by
  obtain ⟨-, rfl⟩ := searchPattern_iff.1 h
  have hilike (text : String) :
      Like.ilike fold text.toList ("%" ++ escapeQuery (strip query) ++ "%").toList =
        some (decide (Occurs fold (strip query) text)) := by
    have hpercent : "%".toList = ['%'] := rfl
    rw [String.toList_append, String.toList_append, toList_escapeQuery, hpercent,
      List.singleton_append, Like.ilike_escape hfold]
    rfl
  refine ⟨fun text _ => hilike text, ?_⟩
  rw [hdb _ _ _ (hilike d.deviceId), hdb _ _ _ (hilike d.displayName), Bool.decide_or]

theorem neutral_toLower : Like.Neutral fun c => [c.toLower] := by
  constructor
  · intro c hc
    simp only [Like.special, Bool.or_eq_true, beq_iff_eq] at hc
    rcases hc with (rfl | rfl) | rfl <;> rfl
  · intro c hc d hd
    cases List.mem_singleton.1 hd
    by_cases hupper : c.val ≥ 'A'.val ∧ c.val ≤ 'Z'.val
    · have hletters : ∀ n : Fin 26, Like.special (Char.ofNat (65 + n)).toLower = false := by decide
      have hlow : 65 ≤ c.toNat := hupper.1
      have hhigh : c.toNat ≤ 90 := hupper.2
      have hletter := hletters ⟨c.toNat - 65, by omega⟩
      rwa [Nat.add_sub_cancel' hlow, Char.ofNat_toNat] at hletter
    · have hlower : c.toLower = c := dif_neg hupper
      rwa [hlower]

/-- A database that stores what it is given and folds the case of ASCII letters. -/
def foldingPostgres : Postgres :=
  { plainPostgres with
    ilike := fun text pattern =>
      (Like.ilike (fun c => [c.toLower]) text.toList pattern.toList).getD false }

theorem search_is_literal_percent : searchPattern " 50%_\\ " = .ok "%50\\%\\_\\\\%" ∧
    Like.ilike (fun c => [c.toLower]) "Load 50%_\\".toList "%50\\%\\_\\\\%".toList = some true ∧
    Like.ilike (fun c => [c.toLower]) "load-501".toList "%50\\%\\_\\\\%".toList = some false := by
  have hpattern : searchPattern " 50%_\\ " = .ok "%50\\%\\_\\\\%" := by decide +kernel
  have hfolds : foldingPostgres.Folds fun c => [c.toLower] := by
    intro text pattern found h
    simp only [foldingPostgres, h, Option.getD_some]
  obtain ⟨htexts, -⟩ := search_is_literal neutral_toLower hfolds hpattern
    (newRow ⟨"load-501", "Load 50%_\\", "collar", .active, none, [], [], []⟩ "alice" 1)
  refine ⟨hpattern, (htexts _ (by simp [newRow])).trans ?_, (htexts _ (by simp [newRow])).trans ?_⟩
  · decide +kernel
  · decide +kernel

end ArchiDeal.Registry
