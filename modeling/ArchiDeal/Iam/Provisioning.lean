import ArchiDeal.Iam.Binding

/-!
# Concurrent provisions of one identity

Several calls of `provision_oidc_acl_identity` provision the same issuer and subject. One of them
inserts the identity and its technical user; a call that loses this race rolls back and reads the
identity again.

`concurrent_provisions_succeed`: all calls return the identity, one of them as created, in every run
in which no call checks the derived username after another one has stored the identity. Without the
condition such a call raises a conflict (`late_username_check_conflicts`): it has not found the
identity, and then takes the technical user of this very identity for another user; only the race
for the insert is handled by the second reading.
-/

namespace ArchiDeal.Iam

open Transition
open Catalogue (deriveOidcAclUsername)

/-! ### The property -/

def Thread.provision : Thread → Option Provision
  | .provisionLookup request => some request
  | .provisionUsername request => some request
  | .provisionInsert request => some request
  | .provisionRetry request => some request
  | _ => none

/-- The statements that a provisioning has left at most. -/
def Thread.statementsLeft : Thread → ℕ
  | .provisionLookup _ => 4
  | .provisionUsername _ => 3
  | .provisionInsert _ => 2
  | .provisionRetry _ => 1
  | _ => 0

theorem Thread.provision_cases {thread : Thread} {request : Provision}
    (h : thread.provision = some request) :
    thread = .provisionLookup request ∨ thread = .provisionUsername request ∨
      thread = .provisionInsert request ∨ thread = .provisionRetry request := by
  cases thread <;> simp_all [Thread.provision]

/-- A request for the identity. -/
def Provision.For (issuer subject : String) (request : Provision) : Prop :=
  request.issuer = issuer ∧ request.subject = subject

instance (issuer subject : String) (request : Provision) : Decidable (request.For issuer subject) :=
  inferInstanceAs (Decidable (_ ∧ _))

def Thread.ProvisionFor (issuer subject : String) (thread : Thread) : Prop :=
  ∃ request, thread.provision = some request ∧ request.For issuer subject

/-- All provisions of an identity succeed. -/
structure ProvisionedOnce (rules : Rules) (issuer subject : String) (s : System) : Prop where
  /-- A call that has ended has returned the stored identity. -/
  outcome : ∃ id, ∀ w thread, s.threads.lookup w = some thread →
    thread.ProvisionFor issuer subject ∨ (∃ created updated,
      thread = .done (.provisioned id created updated) ∧
        ∃ identity, s.db.identities.lookup id = some identity ∧ identity.issuer = issuer ∧
          identity.subject = subject)
  /-- Not two of them have created it. -/
  unique : ∀ w w' id id' updated updated',
    s.threads.lookup w = some (.done (.provisioned id true updated)) →
    s.threads.lookup w' = some (.done (.provisioned id' true updated')) → w = w'
  /-- If all have ended, one has. -/
  created : ∀ w thread, s.threads.lookup w = some thread →
    (∀ w thread, s.threads.lookup w = some thread → ¬ thread.ProvisionFor issuer subject) →
    ∃ w id updated, s.threads.lookup w = some (.done (.provisioned id true updated))
  /-- A call that has not ended can take its next statement, and has fewer left then. -/
  progress : ∀ w thread, s.threads.lookup w = some thread → thread.ProvisionFor issuer subject →
    ∀ choice, ∃ t next, System.step rules s (.run w choice) = some t ∧
      t.threads.lookup w = some next ∧ next.statementsLeft < thread.statementsLeft

def Request.isProvisionFor (issuer subject : String) : Request → Bool
  | .provision request => request.For issuer subject
  | _ => false

def Thread.checksUsername : Thread → Bool
  | .provisionUsername _ => true
  | _ => false

/-- Every call provisions the identity, and the identity is not stored when one
checks the username. -/
def Unraced (issuer subject : String) (s : System) : Action → Prop
  | .call _ request => request.isProvisionFor issuer subject = true
  | .run id _ => ((s.threads.lookup id).any Thread.checksUsername &&
      (s.db.identityOf issuer subject).isSome) = false

instance (issuer subject : String) (s : System) : (action : Action) →
    Decidable (Unraced issuer subject s action)
  | .call _ _ => inferInstanceAs (Decidable (_ = true))
  | .run _ _ => inferInstanceAs (Decidable (_ = false))

/-! ### Stored identities -/

section Stored

variable {rules : Rules} {issuer subject : String} {db : Store} {id : ℕ}
  {identity : OidcAclIdentity}
  {request : Provision}

/-- The identity is stored under this key only, and its user is technical. -/
structure Holds (issuer subject : String) (db : Store) (id : ℕ) (identity : OidcAclIdentity) :
    Prop where
  lookup : db.identities.lookup id = some identity
  pair : identity.issuer = issuer ∧ identity.subject = subject
  unique : ∀ {id' identity'}, db.identities.lookup id' = some identity' →
    identity'.issuer = issuer → identity'.subject = subject → id' = id
  user : db.users.lookup identity.user = some (technicalUser (deriveOidcAclUsername issuer subject))

theorem Holds.identityOf (h : Holds issuer subject db id identity) :
    db.identityOf issuer subject = some (id, identity) := by
  cases hfind : db.identityOf issuer subject with
  | none =>
    have hnot := Table.find_eq_none.1 hfind id identity h.lookup
    simp [h.pair.1, h.pair.2] at hnot
  | some found =>
    obtain ⟨id', identity'⟩ := found
    obtain ⟨hlookup, hpair⟩ := Table.lookup_of_find hfind
    simp only [Bool.and_eq_true, beq_iff_eq] at hpair
    obtain rfl := h.unique hlookup hpair.1 hpair.2
    rw [h.lookup] at hlookup
    cases hlookup
    rfl

theorem Holds.usernameTaken (h : Holds issuer subject db id identity) :
    db.usernameTaken none (deriveOidcAclUsername issuer subject) = true :=
  Table.any_eq_true.2 ⟨_, _, h.user, by simp [technicalUser]⟩

theorem Holds.provisionFound (h : Holds issuer subject db id identity)
    (hfor : request.For issuer subject) :
    ∃ refreshed updated, Iam.provisionFound db request id identity =
        ({ db with identities := db.identities.insert id refreshed },
          .done (.provisioned id false updated)) ∧
      Holds issuer subject { db with identities := db.identities.insert id refreshed } id
        refreshed := by
  have hbinding : bindingConflict (technicalUser (deriveOidcAclUsername issuer subject))
      (deriveOidcAclUsername issuer subject) = none := by
    simp [bindingConflict, technicalUser]
  refine ⟨(refreshMetadata identity request.displayName request.email).1,
    (refreshMetadata identity request.displayName request.email).2, ?_, ?_⟩
  · rw [Iam.provisionFound, h.user, hfor.1, hfor.2]
    simp only [hbinding]
  · refine ⟨AList.lookup_insert _, h.pair, fun {id' identity'} hlookup hissuer hsubject => ?_,
      h.user⟩
    rw [Table.lookup_insert_eq] at hlookup
    split_ifs at hlookup with hid
    · exact hid
    · exact h.unique hlookup hissuer hsubject

theorem holds_insert (hnew : db.identityOf issuer subject = none)
    (hname : db.usernameTaken none (deriveOidcAclUsername issuer subject) = false)
    (hfor : request.For issuer subject) :
    ∃ db' id identity, provisionInsert db request = (db', .done (.provisioned id true false)) ∧
      Holds issuer subject db' id identity := by
  have hinsert : provisionInsert db request =
      ({ users := db.users.insert db.nextUser (technicalUser (deriveOidcAclUsername issuer subject))
         identities := db.identities.insert db.nextIdentity
          { user := db.nextUser, issuer := issuer, subject := subject,
            displayName := request.displayName.getD "", email := request.email.getD "" }
         nextUser := db.nextUser + 1
         nextIdentity := db.nextIdentity + 1 },
        .done (.provisioned db.nextIdentity true false)) := by
    rw [provisionInsert, hfor.1, hfor.2, hname, hnew]
    rfl
  refine ⟨_, _, _, hinsert, AList.lookup_insert _, ⟨rfl, rfl⟩, fun hlookup hissuer hsubject => ?_,
    AList.lookup_insert _⟩
  rw [Table.lookup_insert_eq] at hlookup
  split_ifs at hlookup with hid
  · exact hid
  · have hnot := Table.find_eq_none.1 hnew _ _ hlookup
    simp [hissuer, hsubject] at hnot

end Stored

/-! ### The two phases of a run -/

/-- The identity is not stored yet, or one call has stored it and no other will. -/
inductive ProvisionPhase (issuer subject : String) (db : Store) (s : System) : Prop
  | fresh (hdb : s.db = db)
      (hthreads : ∀ w thread, s.threads.lookup w = some thread →
        thread.ProvisionFor issuer subject ∧ 1 < thread.statementsLeft)
  | stored (w₀ id : ℕ) (identity : OidcAclIdentity) (holds : Holds issuer subject s.db id identity)
      (hcreator : s.threads.lookup w₀ = some (.done (.provisioned id true false)))
      (hothers : ∀ w thread, w ≠ w₀ → s.threads.lookup w = some thread →
        thread.ProvisionFor issuer subject ∨
          ∃ updated, thread = .done (.provisioned id false updated))

section Phases

variable {rules : Rules} {issuer subject : String} {db : Store} {s t : System}

theorem ProvisionPhase.call {w : ℕ} {request : Request} (h : ProvisionPhase issuer subject db s)
    (hok : Unraced issuer subject s (.call w request))
    (next : System.step rules s (.call w request) = some t) :
      ProvisionPhase issuer subject db t := by
  obtain ⟨provision, rfl, hfor⟩ : ∃ provision, request = .provision provision ∧
      provision.For issuer subject := by
    cases request with
    | provision provision => exact ⟨provision, rfl,
      by simpa [Unraced, Request.isProvisionFor] using hok⟩
    | _ => cases hok
  simp only [System.step] at next
  split_ifs at next with hfree
  cases next
  have hnew : (Request.provision provision).thread.ProvisionFor issuer subject :=
    ⟨provision, rfl, hfor⟩
  cases h with
  | fresh hdb hthreads =>
    refine .fresh hdb fun v thread hv => ?_
    rw [Table.lookup_insert_eq] at hv
    split_ifs at hv with hvw
    · cases hv
      exact ⟨hnew, show 1 < 4 by decide⟩
    · exact hthreads v thread hv
  | stored w₀ id identity holds hcreator hothers =>
    refine .stored w₀ id identity holds ?_ fun v thread hne hv => ?_
    · refine Table.lookup_insert_of_new ?_ hcreator
      simpa using hfree
    · rw [Table.lookup_insert_eq] at hv
      split_ifs at hv with hvw
      · cases hv
        exact .inl hnew
      · exact hothers v thread hne hv

/-- As long as the identity is not stored, nothing is found and the first insert succeeds. -/
theorem step_unstored {w : ℕ} {thread next : Thread} {choice : Choice} {db' : Store}
    (hissuer : rules.approvedIssuer issuer = true) (hsubject : validSubject subject = true)
    (hnew : db.identityOf issuer subject = none)
    (hname : db.usernameTaken none (deriveOidcAclUsername issuer subject) = false)
    (hthreads : ∀ w thread, s.threads.lookup w = some thread →
      thread.ProvisionFor issuer subject ∧ 1 < thread.statementsLeft)
    (hw : s.threads.lookup w = some thread)
    (hadvance : advance rules db choice thread = some (db', next)) :
    ProvisionPhase issuer subject db ⟨db', s.threads.insert w next⟩ := by
  -- the thread moves on without a change
  have hmove (hnext : next.ProvisionFor issuer subject ∧ 1 < next.statementsLeft) :
      ProvisionPhase issuer subject db ⟨db, s.threads.insert w next⟩ := by
    refine .fresh rfl fun v other hv => ?_
    rw [Table.lookup_insert_eq] at hv
    split_ifs at hv
    · cases hv
      exact hnext
    · exact hthreads v other hv
  obtain ⟨⟨request, hrequest, hfor⟩, hleft⟩ := hthreads w thread hw
  have hfor' := hfor
  obtain ⟨rfl, rfl⟩ := hfor
  rcases Thread.provision_cases hrequest with rfl | rfl | rfl | rfl
  · simp only [advance, hissuer, hsubject, hnew, Bool.and_self, if_true] at hadvance
    cases hadvance
    exact hmove ⟨⟨request, rfl, hfor'⟩, show 1 < 3 by decide⟩
  · simp only [advance, hname, Bool.false_eq_true, if_false] at hadvance
    cases hadvance
    exact hmove ⟨⟨request, rfl, hfor'⟩, show 1 < 2 by decide⟩
  · obtain ⟨stored, id, identity, hinsert, holds⟩ := holds_insert hnew hname hfor'
    simp only [advance, hinsert] at hadvance
    cases hadvance
    refine .stored w id identity holds (AList.lookup_insert _) fun v other hne hv => .inl ?_
    rw [Table.lookup_insert_eq, if_neg hne] at hv
    exact (hthreads v other hv).1
  · exact absurd hleft (show ¬ 1 < 1 by decide)

theorem step_stored_identity {w w₀ id : ℕ} {identity : OidcAclIdentity} {thread next : Thread}
    {choice : Choice} {db' : Store} (hissuer : rules.approvedIssuer issuer = true)
    (hsubject : validSubject subject = true) (holds : Holds issuer subject s.db id identity)
    (hcreator : s.threads.lookup w₀ = some (.done (.provisioned id true false)))
    (hothers : ∀ w thread, w ≠ w₀ → s.threads.lookup w = some thread →
      thread.ProvisionFor issuer subject ∨
        ∃ updated, thread = .done (.provisioned id false updated))
    (hok : thread.checksUsername = false) (hw : s.threads.lookup w = some thread)
    (hadvance : advance rules s.db choice thread = some (db', next)) :
    ProvisionPhase issuer subject db ⟨db', s.threads.insert w next⟩ := by
  -- the call that has stored the identity takes no step
  have hne : w ≠ w₀ := by
    rintro rfl
    rw [hcreator] at hw
    cases hw
    cases hadvance
  have hmove {db' : Store} {identity' : OidcAclIdentity} {next : Thread}
      (holds' : Holds issuer subject db' id identity')
      (hnext : next.ProvisionFor issuer subject ∨
        ∃ updated, next = .done (.provisioned id false updated)) :
      ProvisionPhase issuer subject db ⟨db', s.threads.insert w next⟩ := by
    refine .stored w₀ id identity' holds' ?_ fun v other hv hlookup => ?_
    · rw [Table.lookup_insert_eq, if_neg (Ne.symm hne)]
      exact hcreator
    · rw [Table.lookup_insert_eq] at hlookup
      split_ifs at hlookup
      · cases hlookup
        exact hnext
      · exact hothers v other hv hlookup
  rcases hothers w thread hne hw with ⟨request, hrequest, hfor⟩ | ⟨updated, rfl⟩
  · have hfor' := hfor
    obtain ⟨refreshed, updated, hfound, holds'⟩ := holds.provisionFound hfor
    have hidentity := holds.identityOf
    have htaken := holds.usernameTaken
    obtain ⟨rfl, rfl⟩ := hfor
    rcases Thread.provision_cases hrequest with rfl | rfl | rfl | rfl
    · simp only [advance, hissuer, hsubject, hidentity, Bool.and_self, if_true, hfound] at hadvance
      cases hadvance
      exact hmove holds' (.inr ⟨updated, rfl⟩)
    · cases hok
    · simp only [advance, provisionInsert, htaken, Bool.true_or, if_true] at hadvance
      cases hadvance
      exact hmove holds (.inl ⟨request, rfl, hfor'⟩)
    · simp only [advance, hidentity, hfound] at hadvance
      cases hadvance
      exact hmove holds' (.inr ⟨updated, rfl⟩)
  · cases hadvance

/-- A step of a run in which no call checks the username too late. -/
theorem ProvisionPhase.step {action : Action} (hissuer : rules.approvedIssuer issuer = true)
    (hsubject : validSubject subject = true) (hnew : db.identityOf issuer subject = none)
    (hname : db.usernameTaken none (deriveOidcAclUsername issuer subject) = false)
    (h : ProvisionPhase issuer subject db s) (hok : Unraced issuer subject s action)
    (next : System.step rules s action = some t) : ProvisionPhase issuer subject db t := by
  cases action with
  | call w request => exact h.call hok next
  | run w choice =>
    simp only [System.step] at next
    obtain ⟨thread, hw, hnext⟩ := Option.bind_eq_some_iff.1 next
    obtain ⟨⟨db', thread'⟩, hadvance, ht⟩ := Option.bind_eq_some_iff.1 hnext
    cases ht
    cases h with
    | fresh hdb hthreads =>
      rw [hdb] at hadvance
      exact step_unstored hissuer hsubject hnew hname hthreads hw hadvance
    | stored w₀ id identity holds hcreator hothers =>
      refine step_stored_identity hissuer hsubject holds hcreator hothers ?_ hw hadvance
      simpa [Unraced, hw, holds.identityOf] using hok

theorem advance_provision (rules : Rules) (db : Store) (choice : Choice) {thread : Thread}
    {request : Provision} (h : thread.provision = some request) :
    ∃ db' next, advance rules db choice thread = some (db', next) ∧
      next.statementsLeft < thread.statementsLeft := by
  have hfound (id : ℕ) (identity : OidcAclIdentity) :
      (provisionFound db request id identity).2.statementsLeft = 0 := by
    unfold provisionFound
    split
    · rfl
    · split <;> rfl
  have hinsert : (provisionInsert db request).2.statementsLeft < 2 := by
    unfold provisionInsert
    simp only
    split
    · exact (show 1 < 2 by decide)
    · exact (show 0 < 2 by decide)
  rcases Thread.provision_cases h with rfl | rfl | rfl | rfl
  · simp only [advance]
    split
    · split
      · exact ⟨_, _, rfl, (hfound _ _).trans_lt (show 0 < 4 by decide)⟩
      · exact ⟨_, _, rfl, show 3 < 4 by decide⟩
    · exact ⟨_, _, rfl, show 0 < 4 by decide⟩
  · simp only [advance]
    split
    · exact ⟨_, _, rfl, show 0 < 3 by decide⟩
    · exact ⟨_, _, rfl, show 2 < 3 by decide⟩
  · exact ⟨_, _, rfl, hinsert⟩
  · simp only [advance]
    split
    · exact ⟨_, _, rfl, (hfound _ _).trans_lt (show 0 < 1 by decide)⟩
    · split <;> exact ⟨_, _, rfl, show 0 < 1 by decide⟩

theorem ProvisionPhase.provisionedOnce (h : ProvisionPhase issuer subject db s) :
    ProvisionedOnce rules issuer subject s := by
  have hprogress : ∀ w thread, s.threads.lookup w = some thread →
      thread.ProvisionFor issuer subject → ∀ choice, ∃ t next,
        System.step rules s (.run w choice) = some t ∧ t.threads.lookup w = some next ∧
          next.statementsLeft < thread.statementsLeft := by
    rintro w thread hw ⟨request, hrequest, -⟩ choice
    obtain ⟨db', next, hadvance, hless⟩ := advance_provision rules s.db choice hrequest
    exact ⟨⟨db', s.threads.insert w next⟩, next, by simp [System.step, hw, hadvance],
      AList.lookup_insert _, hless⟩
  have hdone (answer : Answer) : ¬ (Thread.done answer).ProvisionFor issuer subject := by
    rintro ⟨request, hrequest, -⟩
    cases hrequest
  cases h with
  | fresh hdb hthreads =>
    refine ⟨⟨0, fun w thread hw => .inl (hthreads w thread hw).1⟩, ?_, ?_, hprogress⟩
    · intro w w' id id' updated updated' hw
      exact absurd (hthreads w _ hw).1 (hdone _)
    · intro w thread hw hall
      exact absurd (hthreads w thread hw).1 (hall w thread hw)
  | stored w₀ id identity holds hcreator hothers =>
    refine ⟨⟨id, fun w thread hw => ?_⟩, ?_, fun _ _ _ _ => ⟨w₀, id, false, hcreator⟩, hprogress⟩
    · have hstored : ∃ identity, s.db.identities.lookup id = some identity ∧
          identity.issuer = issuer ∧ identity.subject = subject :=
        ⟨identity, holds.lookup, holds.pair⟩
      by_cases hne : w = w₀
      · rw [hne, hcreator] at hw
        cases hw
        exact .inr ⟨true, false, rfl, hstored⟩
      · refine (hothers w thread hne hw).imp_right ?_
        rintro ⟨updated, heq⟩
        exact ⟨false, updated, heq, hstored⟩
    · -- whoever has created the identity is the one
      have hone : ∀ w id updated,
          s.threads.lookup w = some (.done (.provisioned id true updated)) → w = w₀ := by
        intro w id' updated hw
        by_contra hne
        rcases hothers w _ hne hw with hrunning | ⟨updated', heq⟩
        · exact hdone _ hrunning
        · cases heq
      intro w w' id id' updated updated' hw hw'
      rw [hone w id updated hw, hone w' id' updated' hw']

end Phases

/-- **Concurrent provisions of one identity all succeed**: they return the identity and one of them
creates it, in every run in which none checks the username after the identity has been stored. -/
theorem concurrent_provisions_succeed (rules : Rules) {issuer subject : String} {s t : System}
    (hissuer : rules.approvedIssuer issuer = true) (hsubject : validSubject subject = true)
    (hnew : s.db.identityOf issuer subject = none)
    (hname : s.db.usernameTaken none (deriveOidcAclUsername issuer subject) = false)
    (hidle : s.threads = ∅)
    (run : Reach (fun s => System.step rules s) (Unraced issuer subject) s t) :
    ProvisionedOnce rules issuer subject t := by
  refine (run.invariant (ProvisionPhase issuer subject s.db) ?_ ?_).provisionedOnce
  · refine .fresh rfl fun w thread hw => ?_
    rw [hidle] at hw
    cases hw
  · intro a action b _ h hok next
    exact h.step hissuer hsubject hnew hname hok next

/-! ### Samples -/

def Thread.answers (answer : Answer) : Thread → Bool
  | .done answer' => answer' == answer
  | _ => false

theorem eq_of_answers {thread : Thread} {answer : Answer} (h : thread.answers answer = true) :
    thread = .done answer := by
  cases thread with
  | done answer' => rw [beq_iff_eq.1 h]
  | _ => cases h

/-- A call for the identity of Ada. -/
def provisionAda (w : ℕ) : Action := .call w (.provision ⟨"https://id.example", "ada", none, none⟩)

/-- Two calls look for the identity before one of them has stored it; the second one loses the race
for the insert. -/
theorem concurrent_provisions_succeed_race :
    ∃ t, Reach (fun s => System.step sampleRules s) (Unraced "https://id.example" "ada")
      emptySystem t ∧ t.threads.lookup 1 = some (.done (.provisioned 1 false false)) ∧
      ProvisionedOnce sampleRules "https://id.example" "ada" t := by
  have hrun : ((runLabels (fun s => System.step sampleRules s) (Unraced "https://id.example" "ada")
      emptySystem [provisionAda 0, provisionAda 1, .run 0 {}, .run 1 {}, .run 0 {}, .run 1 {},
        .run 0 {}, .run 1 {}, .run 1 {}]).any fun t =>
          (t.threads.lookup 1).any (·.answers (.provisioned 1 false false))) = true := by
    decide +kernel
  obtain ⟨t, ht, hsecond⟩ := (Option.any_eq_true _ _).1 hrun
  obtain ⟨thread, hlookup, hanswers⟩ := (Option.any_eq_true _ _).1 hsecond
  have hreach := reach_of_runLabels ht
  exact ⟨t, hreach, hlookup.trans (congrArg some (eq_of_answers hanswers)),
    concurrent_provisions_succeed sampleRules (by decide) (by decide) rfl rfl rfl hreach⟩

/-- **A call that checks the username too late raises a conflict**: the other one has stored the
identity since it was looked for. -/
theorem late_username_check_conflicts :
    ∃ t, emptySystem.db.identityOf "https://id.example" "ada" = none ∧
      emptySystem.db.usernameTaken none (deriveOidcAclUsername "https://id.example" "ada") = false ∧
      Reach (fun s => System.step sampleRules s) Free emptySystem t ∧
      t.threads.lookup 0 = some (.done (.provisioned 1 true false)) ∧
      t.threads.lookup 1 = some (.done usernameOwned) := by
  have hrun : ((runLabels (fun s => System.step sampleRules s) Free emptySystem
      [provisionAda 0, provisionAda 1, .run 1 {}, .run 0 {}, .run 0 {}, .run 0 {}, .run 1 {}]).any
        fun t => (t.threads.lookup 0).any (·.answers (.provisioned 1 true false)) &&
          (t.threads.lookup 1).any (·.answers usernameOwned)) = true := by
    decide +kernel
  obtain ⟨t, ht, hboth⟩ := (Option.any_eq_true _ _).1 hrun
  obtain ⟨hfirst, hsecond⟩ := (Bool.and_eq_true _ _).mp hboth
  obtain ⟨first, hlookup, hanswers⟩ := (Option.any_eq_true _ _).1 hfirst
  obtain ⟨second, hlookup', hanswers'⟩ := (Option.any_eq_true _ _).1 hsecond
  exact ⟨t, rfl, rfl, reach_of_runLabels ht, hlookup.trans (congrArg some (eq_of_answers hanswers)),
    hlookup'.trans (congrArg some (eq_of_answers hanswers'))⟩

end ArchiDeal.Iam
