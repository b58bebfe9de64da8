import PlayerRegistry.Proofs.NewAccounts

/-!
# Logins

What a login comes to when it is done alone on a coherent table, for an account that is known and
for an anonymous player.
-/

namespace PlayerRegistry

namespace AccountTable

theorem Coherent.findByUsername_of_mem {t : AccountTable} (h : t.Coherent) {x : Row}
    (hx : x ∈ t.rows) {username : String} (named : x.account.username = username) :
    t.findByUsername username = .ok (some x.account) := by
  refine h.find_of_mem hx (by simpa using named) ?_
  intro y hy same
  have same : y.account.username = username := by simpa using same
  exact h.usernames y hy x hx (by simp) (congrArg some (same.trans named.symm))

/-- A username is looked up where it is, or there is none. -/
theorem Coherent.findByUsername_cases {t : AccountTable} (h : t.Coherent) (username : String) :
    (∃ x ∈ t.rows, x.account.username = username ∧
      t.findByUsername username = .ok (some x.account)) ∨
    ((∀ x ∈ t.rows, x.account.username ≠ username) ∧ t.findByUsername username = .ok none) := by
  by_cases known : ∃ x ∈ t.rows, x.account.username = username
  · obtain ⟨x, hx, named⟩ := known
    exact .inl ⟨x, hx, named, h.findByUsername_of_mem hx named⟩
  · have unknown : ∀ x ∈ t.rows, x.account.username ≠ username :=
      fun x hx named => known ⟨x, hx, named⟩
    refine .inr ⟨unknown, ?_⟩
    have : t.rows.find? (fun x => decide (x.account.username = username)) = none := by
      simpa using unknown
    rw [findByUsername, find, this]

/-- Gives the account of an id a session. -/
def withSession (t : AccountTable) (id : Int) (session : SessionColumns) : AccountTable :=
  t.modify id fun x => { x with account := { x.account with session } }

end AccountTable

namespace Scene

open Work

variable {s : Scene} {r : Registry}

/-- The session that the next draw makes. -/
def nextSession (s : Scene) (r : Registry) : Session :=
  Session.mint (s.random.token r.draws) s.now

theorem perform_beginSession {x : Row} (hx : x ∈ r.accounts.rows)
    (fresh : ∀ y ∈ r.accounts.rows, y.account.session.token ≠ some (s.random.token r.draws)) :
    (s.beginSession x.account).perform r =
      (.ok ⟨{ x.account with session := (s.nextSession r).columns }, s.nextSession r⟩,
        { r with
          accounts := r.accounts.withSession x.account.id (s.nextSession r).columns
          draws := r.draws + 1 }) := by
  have issued : r.accounts.issue x.account (s.nextSession r) =
      (.ok { x.account with session := (s.nextSession r).columns },
        r.accounts.withSession x.account.id (s.nextSession r).columns) := by
    rw [AccountTable.issue]
    rcases AccountTable.setSession_cases r.accounts x.account.id (s.nextSession r).token
      (s.nextSession r).expiresAt with ⟨missing, -⟩ | ⟨-, ⟨y, hy, -, same⟩, -⟩ | ⟨-, -, he⟩
    · exact absurd rfl (missing x hx)
    · exact absurd same (fresh y hy)
    · rw [he]
      rfl
  have stored : (Work.onAccounts fun t => t.issue x.account (s.nextSession r)).perform
      { r with draws := r.draws + 1 } =
      (.ok { x.account with session := (s.nextSession r).columns },
        { r with
          accounts := r.accounts.withSession x.account.id (s.nextSession r).columns
          draws := r.draws + 1 }) := by
    rw [perform_onAccounts, issued]
  rw [beginSession, perform_bind_ok (perform_newSession s r)]
  exact perform_bind_ok stored _

theorem perform_loginTo {a : Account} {password : String}
    (salt : 8 ≤ a.profile.password.salt.size)
    (fits : s.service.credentials.Fits password a.profile.password) :
    (s.loginTo a password).perform r = (s.beginSession a).perform r := by
  have checked : (Work.ofResult (s.service.credentials.verify password a.profile.password)).perform
      r = (.ok true, r) := by
    rw [perform_ofResult, Credentials.verify_iff.mpr ⟨salt, fits⟩]
  rw [loginTo, perform_bind_ok checked]
  rfl

theorem perform_loginTo_refused {a : Account} {password : String}
    (salt : 8 ≤ a.profile.password.salt.size)
    (other : ¬s.service.credentials.Fits password a.profile.password) :
    (s.loginTo a password).perform r = (.error loginRefused, r) := by
  obtain ⟨valid, verified, fits⟩ := s.service.credentials.verify_of_long password salt
  have invalid : valid = false := by simpa using fits.not.mpr other
  have checked : (Work.ofResult (s.service.credentials.verify password a.profile.password)).perform
      r = (.ok false, r) := by
    rw [perform_ofResult, verified, invalid]
  rw [loginTo, perform_bind_ok checked]
  rfl

theorem isAnonymous_iff {q : LoginRequest} :
    s.isAnonymous q = true ↔ s.service.policy.canLoginAnonymously q.username = true ∧
      s.service.policy.anonymousPassword ≠ "" ∧
      q.password = s.service.policy.anonymousPassword := by
  simp [isAnonymous, and_assoc]

/-- What the first login of an anonymous player makes. -/
def welcomed (s : Scene) (r : Registry) (q : LoginRequest) : SignedIn :=
  s.signedIn r.accounts q.username q.password (s.random.uuid r.draws).toText (r.draws + 1)

theorem perform_loginAnonymously {q : LoginRequest}
    (salt : 8 ≤ (s.random.salt (r.draws + 1)).size)
    (free : ∀ x ∈ r.accounts.rows, AccountTable.clashes (s.newAccount q.username q.password
      (s.random.uuid r.draws).toText (r.draws + 1)) x.account = false) :
    (s.loginAnonymously q).perform r = (.ok (s.welcomed r q), { r with
      accounts := ⟨r.accounts.rows ++ [⟨(s.welcomed r q).account, true⟩], r.accounts.lastId + 1⟩
      draws := r.draws + 3 }) := by
  have created := perform_createAccount_of_free (r := { r with draws := r.draws + 1 }) salt free
  rw [loginAnonymously, perform_bind_ok (perform_newUuid s r)]
  exact perform_tryCatch_ok created _

/-- The refusal of the table is not passed on, as long as nobody has the username. -/
theorem perform_loginAnonymously_refused {q : LoginRequest}
    (salt : 8 ≤ (s.random.salt (r.draws + 1)).size)
    (taken : ∃ x ∈ r.accounts.rows, AccountTable.clashes (s.newAccount q.username q.password
      (s.random.uuid r.draws).toText (r.draws + 1)) x.account = true)
    (unknown : r.accounts.findByUsername q.username = .ok none) :
    (s.loginAnonymously q).perform r = (.error loginRefused, { r with draws := r.draws + 3 }) := by
  rw [loginAnonymously, perform_bind_ok (perform_newUuid s r)]
  have refused : (s.createAccount q.username q.password (s.random.uuid r.draws).toText).perform
      { r with draws := r.draws + 1 } =
        (.error AccountTable.taken, { r with draws := r.draws + 3 }) :=
    perform_createAccount_of_clash salt taken
  have looked : (findAccount q.username).perform { r with draws := r.draws + 3 } =
      (.ok none, { r with draws := r.draws + 3 }) := by
    rw [findAccount, perform_seeAccounts, unknown]
  refine (perform_tryCatch_error refused _).trans ?_
  exact perform_bind_ok looked _

theorem perform_login_blank {q : LoginRequest} (blank : q.username = "" ∨ q.password = "") :
    (s.login q).perform r = (.error loginRefused, r) := by
  rw [login, if_pos blank]
  rfl

theorem perform_login_known {q : LoginRequest} (given : q.username ≠ "" ∧ q.password ≠ "")
    {a : Account} (known : r.accounts.findByUsername q.username = .ok (some a)) :
    (s.login q).perform r = (s.loginTo a q.password).perform r := by
  have looked : (findAccount q.username).perform r = (.ok (some a), r) := by
    rw [findAccount, perform_seeAccounts, known]
  rw [login, if_neg (by simpa using given)]
  exact perform_bind_ok looked _

theorem perform_login_unknown {q : LoginRequest} (given : q.username ≠ "" ∧ q.password ≠ "")
    (unknown : r.accounts.findByUsername q.username = .ok none) :
    (s.login q).perform r =
      if s.isAnonymous q then (s.loginAnonymously q).perform r else (.error loginRefused, r) := by
  have looked : (findAccount q.username).perform r = (.ok none, r) := by
    rw [findAccount, perform_seeAccounts, unknown]
  rw [login, if_neg (by simpa using given)]
  refine (perform_bind_ok looked _).trans ?_
  cases s.isAnonymous q with
  | true => rfl
  | false => rfl

end Scene

end PlayerRegistry
