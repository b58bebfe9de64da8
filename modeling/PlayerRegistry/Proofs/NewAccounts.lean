import PlayerRegistry.Proofs.Operations

/-!
# New accounts and new sessions

What comes of the work that makes an account or begins a session when it is done alone: which
values are drawn, and the one statement that they are drawn for.
-/

namespace PlayerRegistry

namespace Scene

open Work

/-- The account that is made of the draws from `k` on. -/
def newAccount (s : Scene) (username password uuid : String) (k : Nat) : NewAccount where
  uuid := uuid
  username := username
  playerName := username
  password := ⟨s.random.salt k, Argon2.hash s.service.credentials.cost Credentials.hashLength
    password.toUTF8 (s.random.salt k)⟩
  language := s.service.config.defaultPreferredLanguage
  skinModel := .classic
  session := (Session.mint (s.random.token (k + 1)) s.now).columns

/-- The account and its session, once the table has accepted them. -/
def signedIn (s : Scene) (t : AccountTable) (username password uuid : String) (k : Nat) :
    SignedIn :=
  ⟨AccountTable.NewAccount.toAccount (s.newAccount username password uuid k) (t.lastId + 1 : Nat),
    Session.mint (s.random.token (k + 1)) s.now⟩

variable {s : Scene} {r : Registry} {username password uuid : String}

theorem perform_newUuid (s : Scene) (r : Registry) :
    s.newUuid.perform r = (.ok (s.random.uuid r.draws).toText, { r with draws := r.draws + 1 }) :=
  rfl

theorem perform_newSession (s : Scene) (r : Registry) :
    s.newSession.perform r =
      (.ok (Session.mint (s.random.token r.draws) s.now), { r with draws := r.draws + 1 }) := rfl

theorem perform_newPassword (s : Scene) (password : String) (r : Registry) :
    (s.newPassword password).perform r =
      (s.service.credentials.newPassword password (s.random.salt r.draws),
        { r with draws := r.draws + 1 }) := rfl

/-- With a salt that can be hashed with, everything is up to the table. -/
theorem perform_createAccount (salt : 8 ≤ (s.random.salt r.draws).size) {result : Result Account}
    {t : AccountTable}
    (created : r.accounts.create (s.newAccount username password uuid r.draws) = (result, t)) :
    (s.createAccount username password uuid).perform r =
      (result.map fun a => ⟨a, Session.mint (s.random.token (r.draws + 1)) s.now⟩,
        { r with accounts := t, draws := r.draws + 2 }) := by
  have hashed := s.perform_newPassword password r
  rw [Credentials.newPassword_of_long _ _ salt] at hashed
  have stored : (Work.onAccounts (·.create (s.newAccount username password uuid r.draws))).perform
      { r with draws := r.draws + 2 } =
        (result, { r with accounts := t, draws := r.draws + 2 }) := by
    rw [perform_onAccounts, created]
  rw [createAccount, perform_bind_ok hashed, perform_bind_ok (perform_newSession _ _)]
  cases result with
  | error e => exact perform_bind_error stored _
  | ok a => exact perform_bind_ok stored _

theorem perform_createAccount_of_free (salt : 8 ≤ (s.random.salt r.draws).size)
    (free : ∀ x ∈ r.accounts.rows,
      AccountTable.clashes (s.newAccount username password uuid r.draws) x.account = false) :
    (s.createAccount username password uuid).perform r =
      (.ok (s.signedIn r.accounts username password uuid r.draws),
        { r with
          accounts := ⟨r.accounts.rows ++
            [⟨(s.signedIn r.accounts username password uuid r.draws).account, true⟩],
            r.accounts.lastId + 1⟩
          draws := r.draws + 2 }) := by
  rcases AccountTable.create_cases r.accounts (s.newAccount username password uuid r.draws) with
    ⟨⟨x, hx, clash⟩, -⟩ | ⟨-, he⟩
  · exact absurd (clash.symm.trans (free x hx)) (by decide)
  · exact perform_createAccount salt he

theorem perform_createAccount_of_clash (salt : 8 ≤ (s.random.salt r.draws).size)
    (taken : ∃ x ∈ r.accounts.rows,
      AccountTable.clashes (s.newAccount username password uuid r.draws) x.account = true) :
    (s.createAccount username password uuid).perform r =
      (.error AccountTable.taken, { r with draws := r.draws + 2 }) := by
  rcases AccountTable.create_cases r.accounts (s.newAccount username password uuid r.draws) with
    ⟨-, he⟩ | ⟨free, -⟩
  · exact perform_createAccount salt he
  · obtain ⟨x, hx, clash⟩ := taken
    exact absurd (clash.symm.trans (free x hx)) (by decide)

/-- An account that has been made stands last in the table. -/
theorem perform_createAccount_ok {made : SignedIn} {r' : Registry}
    (h : (s.createAccount username password uuid).perform r = (.ok made, r')) :
    8 ≤ (s.random.salt r.draws).size ∧
    (∀ x ∈ r.accounts.rows,
      AccountTable.clashes (s.newAccount username password uuid r.draws) x.account = false) ∧
    made = s.signedIn r.accounts username password uuid r.draws ∧
    r' = { r with
      accounts := ⟨r.accounts.rows ++ [⟨made.account, true⟩], r.accounts.lastId + 1⟩
      draws := r.draws + 2 } := by
  have salt : 8 ≤ (s.random.salt r.draws).size := by
    rw [createAccount] at h
    obtain ⟨kept, r₁, hashed, -⟩ := perform_bind_eq_ok.mp h
    rw [perform_newPassword] at hashed
    exact (Credentials.newPassword_eq_ok (congrArg Prod.fst hashed)).1
  refine ⟨salt, ?_⟩
  rcases AccountTable.create_cases r.accounts (s.newAccount username password uuid r.draws) with
    ⟨-, he⟩ | ⟨free, he⟩
  · rw [perform_createAccount salt he] at h
    cases h
  · rw [perform_createAccount salt he] at h
    cases h
    exact ⟨free, rfl, rfl⟩

/-- Where no account is made, none changes; with a salt that can be hashed with, only the table can
refuse. -/
theorem perform_createAccount_error {e : Error} {r' : Registry}
    (h : (s.createAccount username password uuid).perform r = (.error e, r')) :
    (∃ draws, r' = { r with draws }) ∧
      (8 ≤ (s.random.salt r.draws).size → e = AccountTable.taken) := by
  by_cases salt : 8 ≤ (s.random.salt r.draws).size
  · rcases AccountTable.create_cases r.accounts (s.newAccount username password uuid r.draws) with
      ⟨-, he⟩ | ⟨-, he⟩
    · rw [perform_createAccount salt he] at h
      cases h
      exact ⟨⟨_, rfl⟩, fun _ => rfl⟩
    · rw [perform_createAccount salt he] at h
      cases h
  · refine ⟨?_, fun long => absurd long salt⟩
    have hashed := s.perform_newPassword password r
    rw [Credentials.newPassword, Credentials.hashPassword_of_short _ _ (by omega)] at hashed
    rw [createAccount, perform_bind_error hashed] at h
    cases h
    exact ⟨_, rfl⟩

theorem checkRegistration_eq_ok_iff {q : RegisterRequest} : s.checkRegistration q = .ok () ↔
    Field.checkUsername q.username = .ok () ∧ q.password ≠ "" ∧
      s.service.credentials.minLength ≤ q.password.length := by
  rw [checkRegistration]
  cases named : Field.checkUsername q.username with
  | error e => exact iff_of_false nofun nofun
  | ok _ =>
    change (if q.password = "" then _ else s.checkPassword q.password) = _ ↔ _
    by_cases blank : q.password = ""
    · rw [if_pos blank]
      exact iff_of_false nofun fun h => h.2.1 blank
    · rw [if_neg blank, checkPassword, Credentials.isValidPassword]
      by_cases long : s.service.credentials.minLength ≤ q.password.length
      · simp [blank, long]
      · simp [blank, long]

theorem checkRegistration_eq_error {q : RegisterRequest} {e : Error}
    (h : s.checkRegistration q = .error e) : ∃ field reason, e = .validation field reason := by
  rw [checkRegistration] at h
  rcases error_of_bind h with failed | ⟨_, -, h⟩
  · rw [Field.checkUsername] at failed
    split at failed
    · cases failed
      exact ⟨_, _, rfl⟩
    · split at failed
      · cases failed
        exact ⟨_, _, rfl⟩
      · cases failed
  · split at h
    · cases h
      exact ⟨_, _, rfl⟩
    · change s.checkPassword q.password = _ at h
      rw [checkPassword] at h
      split at h
      · cases h
      · cases h
        exact ⟨_, _, rfl⟩

theorem perform_register_ok {q : RegisterRequest} {made : SignedIn} {r' : Registry}
    (h : (s.register q).perform r = (.ok made, r')) :
    s.checkRegistration q = .ok () ∧ ∃ text r₁, (s.uuidFor q).perform r = (.ok text, r₁) ∧
      (s.createAccount q.username q.password text).perform r₁ = (.ok made, r') := by
  rw [register_eq] at h
  obtain ⟨_, r₀, checked, rest⟩ := perform_bind_eq_ok.mp h
  rw [perform_ofResult, Prod.mk.injEq] at checked
  obtain ⟨checked, rfl⟩ := checked
  obtain ⟨text, r₁, identified, created⟩ := perform_bind_eq_ok.mp rest
  exact ⟨checked, text, r₁, identified, perform_conflictAs_eq_ok.mp created⟩

/-- A registration fails at its checks, over the UUID, or where its account is made. -/
theorem perform_register_error {q : RegisterRequest} {e : Error} {r' : Registry}
    (h : (s.register q).perform r = (.error e, r')) :
    (s.checkRegistration q = .error e ∧ r' = r) ∨ (s.uuidFor q).perform r = (.error e, r') ∨
    ∃ text r₁ e', (s.uuidFor q).perform r = (.ok text, r₁) ∧
      (s.createAccount q.username q.password text).perform r₁ = (.error e', r') ∧
      e = reworded "That username is taken." e' := by
  rw [register_eq] at h
  cases checked : s.checkRegistration q with
  | error e' =>
    rw [checked] at h
    cases h
    exact .inl ⟨rfl, rfl⟩
  | ok _ =>
    rw [checked] at h
    change perform (s.uuidFor q >>= _) r = _ at h
    rcases identified : (s.uuidFor q).perform r with ⟨e' | text, r₁⟩
    · rw [perform_bind_error identified] at h
      cases h
      exact .inr (.inl rfl)
    · rw [perform_bind_ok identified, perform_conflictAs] at h
      rcases created : (s.createAccount q.username q.password text).perform r₁ with ⟨e' | made, r₂⟩
      · rw [created] at h
        cases h
        exact .inr (.inr ⟨text, r₁, e', rfl, created, rfl⟩)
      · rw [created] at h
        cases h

end Scene

end PlayerRegistry
