import PlayerRegistry.Proofs.AnonymousNames
import PlayerRegistry.Proofs.Logins
import PlayerRegistry.Proofs.StoredAccounts

/-!
# What a login decides

A login succeeds for an account whose password fits, and for an anonymous player who is welcome.
Whatever else is asked for is refused in the same words, and no account changes.
-/

namespace PlayerRegistry

open AccountTable (Statement)

namespace Scene

/-- What the next three draws make can be hashed with, and is not in use; a login takes no more. -/
structure Fresh (s : Scene) (r : Registry) : Prop where
  salts : ∀ i < 3, 8 ≤ (s.random.salt (r.draws + i)).size
  tokens : ∀ i < 3, ∀ x ∈ r.accounts.rows,
    x.account.session.token ≠ some (s.random.token (r.draws + i))
  uuids : ∀ i < 3, ∀ x ∈ r.accounts.rows, x.account.uuid ≠ (s.random.uuid (r.draws + i)).toText

/-- The request has the username of the account and a password that fits. -/
structure Accepts (s : Scene) (q : LoginRequest) (a : Account) : Prop where
  username : a.username = q.username
  fits : s.service.credentials.Fits q.password a.profile.password

/-- The request is that of an anonymous player whose name is not in use. -/
structure Welcomes (s : Scene) (t : AccountTable) (q : LoginRequest) : Prop where
  allowed : s.service.config.anonymousLogin.allow = true
  covered : ∃ pattern,
    Regex.compile? s.service.config.anonymousLogin.usernamePattern.toList = some pattern ∧
    Regex.Matches q.username.toList pattern 0 q.username.length
  shared : s.service.config.anonymousLogin.password ≠ ""
  password : q.password = s.service.config.anonymousLogin.password
  unknown : ∀ x ∈ t.rows, x.account.username ≠ q.username
  free : ∀ x ∈ t.rows, x.account.profile.playerName ≠ q.username

end Scene

/-- What is written has a salt that can be hashed with. -/
theorem Operation.Issues.keeps_salt {s : Scene} {op : Operation} {stmt : Statement}
    (seen : ∀ a q, op = .update a q → 8 ≤ a.profile.password.salt.size)
    (h : op.Issues s stmt) : stmt.Preserves fun a => 8 ≤ a.profile.password.salt.size := by
  have long : ∀ {name given text new}, s.Makes name given text new →
      8 ≤ new.password.salt.size := by
    intro name given text new makes
    obtain ⟨k, hashed⟩ := makes.password
    obtain ⟨long, same, -⟩ := Credentials.newPassword_eq_ok hashed
    exact same ▸ long
  cases stmt with
  | create new =>
    intro id
    cases op with
    | register q =>
      obtain ⟨-, _, -, makes⟩ := h
      exact long makes
    | login q =>
      obtain ⟨-, -, _, makes⟩ := h
      exact long makes
    | _ => cases h
  | save b =>
    intro _ _
    cases op with
    | update a q =>
      have updates : s.Updates a q b := h
      change 8 ≤ b.profile.password.salt.size
      by_cases sets : q.Sets .password
      · obtain ⟨_, -, verified⟩ := updates.granted .password sets
        exact (Credentials.verify_iff.mp verified).1
      · have kept : b.profile.password = a.profile.password := updates.kept .password sets
        exact kept ▸ seen a q rfl
    | _ => cases h
  | delete => trivial
  | _ => exact fun _ long => long

namespace Run

/-- What an update has seen of its account was stored once. -/
def SeesStored (x : Run) (_ : Scene) (op : Operation) : Prop :=
  ∀ a q, op = .update a q → x.Stored a

theorem Reached.salts {x : Run} (h : Reached SeesStored x) :
    x.registry.accounts.All fun a => 8 ≤ a.profile.password.salt.size := by
  refine (h.alwaysAll ?_).now
  intro x s op seesStored always stmt issues
  refine issues.keeps_salt ?_
  intro a q hop
  exact always.of_stored (Q := fun p => 8 ≤ p.password.salt.size) (fun _ long => long)
    (seesStored a q hop)

end Run

namespace Scene

open Work

variable {s : Scene} {r : Registry} {q : LoginRequest}

/-- A new name meets another account only where that one has it as its player name. -/
theorem Fresh.clashes_iff (fresh : s.Fresh r) {x : Row} (hx : x ∈ r.accounts.rows)
    (unknown : x.account.username ≠ q.username) :
    AccountTable.clashes (s.newAccount q.username q.password (s.random.uuid r.draws).toText
      (r.draws + 1)) x.account = true ↔ x.account.profile.playerName = q.username := by
  have uuid : x.account.uuid ≠ (s.random.uuid r.draws).toText := fresh.uuids 0 (by decide) x hx
  have token : x.account.session.token ≠ some (s.random.token (r.draws + 2)) :=
    fresh.tokens 2 (by decide) x hx
  simp [AccountTable.clashes, newAccount, Session.columns, Session.mint, unknown, uuid, token]

theorem perform_login_accepted (coherent : r.accounts.Coherent)
    (salts : r.accounts.All fun a => 8 ≤ a.profile.password.salt.size) (fresh : s.Fresh r)
    (given : q.username ≠ "" ∧ q.password ≠ "") {x : Row} (hx : x ∈ r.accounts.rows)
    (accepts : s.Accepts q x.account) :
    (s.login q).perform r =
      (.ok ⟨{ x.account with session := (s.nextSession r).columns }, s.nextSession r⟩,
        { r with
          accounts := r.accounts.withSession x.account.id (s.nextSession r).columns
          draws := r.draws + 1 }) := by
  have known := coherent.findByUsername_of_mem hx accepts.username
  rw [perform_login_known given known, perform_loginTo (salts x hx) accepts.fits]
  exact perform_beginSession hx (fresh.tokens 0 (by decide))

section
variable (checked : s.service.config.check = .ok ())
  (built : Policy.ofConfig s.service.config = .ok s.service.policy)
include checked built

theorem isAnonymous_iff_of_config :
    s.isAnonymous q = true ↔ s.service.config.anonymousLogin.allow = true ∧
      (∃ pattern,
        Regex.compile? s.service.config.anonymousLogin.usernamePattern.toList = some pattern ∧
        Regex.Matches q.username.toList pattern 0 q.username.length) ∧
      s.service.config.anonymousLogin.password ≠ "" ∧
      q.password = s.service.config.anonymousLogin.password := by
  rw [isAnonymous_iff, Policy.canLoginAnonymously_iff checked built, Policy.anonymousPassword,
    Policy.config_of_config built, and_assoc]

theorem perform_login_welcomed (coherent : r.accounts.Coherent) (fresh : s.Fresh r)
    (given : q.username ≠ "" ∧ q.password ≠ "") (welcomes : s.Welcomes r.accounts q) :
    (s.login q).perform r = (.ok (s.welcomed r q), { r with
      accounts := ⟨r.accounts.rows ++ [⟨(s.welcomed r q).account, true⟩], r.accounts.lastId + 1⟩
      draws := r.draws + 3 }) := by
  have anonymous : s.isAnonymous q = true := (isAnonymous_iff_of_config checked built).mpr
    ⟨welcomes.allowed, welcomes.covered, welcomes.shared, welcomes.password⟩
  have free : ∀ x ∈ r.accounts.rows, AccountTable.clashes (s.newAccount q.username q.password
      (s.random.uuid r.draws).toText (r.draws + 1)) x.account = false := by
    intro x hx
    rw [← Bool.not_eq_true, fresh.clashes_iff hx (welcomes.unknown x hx)]
    exact welcomes.free x hx
  rcases coherent.findByUsername_cases q.username with ⟨x, hx, named, -⟩ | ⟨-, unknown⟩
  · exact absurd named (welcomes.unknown x hx)
  · rw [perform_login_unknown given unknown, if_pos anonymous]
    exact perform_loginAnonymously (fresh.salts 1 (by decide)) free

/-- A refusal is always the same, and no account changes. -/
theorem perform_login_refused (coherent : r.accounts.Coherent)
    (salts : r.accounts.All fun a => 8 ≤ a.profile.password.salt.size) (fresh : s.Fresh r)
    (refuses : ¬(q.username ≠ "" ∧ q.password ≠ "" ∧
      ((∃ x ∈ r.accounts.rows, s.Accepts q x.account) ∨ s.Welcomes r.accounts q))) :
    ∃ draws, (s.login q).perform r = (.error loginRefused, { r with draws }) := by
  by_cases given : q.username ≠ "" ∧ q.password ≠ ""
  · have refuses : ¬((∃ x ∈ r.accounts.rows, s.Accepts q x.account) ∨ s.Welcomes r.accounts q) :=
      fun h => refuses ⟨given.1, given.2, h⟩
    rcases coherent.findByUsername_cases q.username with ⟨x, hx, named, known⟩ | ⟨absent, unknown⟩
    · refine ⟨r.draws, ?_⟩
      rw [perform_login_known given known]
      apply perform_loginTo_refused (salts x hx)
      intro fits
      exact refuses (.inl ⟨x, hx, named, fits⟩)
    · rw [perform_login_unknown given unknown]
      by_cases anonymous : s.isAnonymous q = true
      · obtain ⟨allowed, covered, shared, password⟩ :=
          (isAnonymous_iff_of_config checked built).mp anonymous
        have taken : ∃ x ∈ r.accounts.rows, x.account.profile.playerName = q.username := by
          by_contra free
          exact refuses (.inr ⟨allowed, covered, shared, password, absent,
            fun x hx same => free ⟨x, hx, same⟩⟩)
        obtain ⟨x, hx, same⟩ := taken
        refine ⟨r.draws + 3, ?_⟩
        rw [if_pos anonymous]
        exact perform_loginAnonymously_refused (fresh.salts 1 (by decide))
          ⟨x, hx, (fresh.clashes_iff hx (absent x hx)).mpr same⟩ unknown
      · exact ⟨r.draws, if_neg anonymous⟩
  · refine ⟨r.draws, perform_login_blank ?_⟩
    by_contra both
    exact given ⟨fun h => both (.inl h), fun h => both (.inr h)⟩

end

end Scene

namespace Run

open Scene

/-- A login succeeds exactly for an account with the username and a fitting password, which gets a
new session, and for an anonymous player who is welcome, for whom an account is made. All else is
refused in the same words, and leaves every account as it is. -/
theorem login_decides {x : Run} (reached : Reached SeesStored x) {s : Scene}
    (checked : s.service.config.check = .ok ())
    (built : Policy.ofConfig s.service.config = .ok s.service.policy)
    (fresh : s.Fresh x.registry) (q : LoginRequest) :
    let t := x.registry.accounts
    ((∃ made r, (s.login q).perform x.registry = (.ok made, r)) ↔
      q.username ≠ "" ∧ q.password ≠ "" ∧
        ((∃ row ∈ t.rows, s.Accepts q row.account) ∨ s.Welcomes t q)) ∧
    (∀ made r, (s.login q).perform x.registry = (.ok made, r) →
      (∃ row ∈ t.rows, s.Accepts q row.account ∧
        made.account = { row.account with session := made.session.columns } ∧
        r.accounts = t.withSession row.account.id made.session.columns) ∨
      (s.Welcomes t q ∧ made.account.username = q.username ∧
        s.service.credentials.verify q.password made.account.profile.password = .ok true ∧
        made.account.session = made.session.columns ∧
        r.accounts = ⟨t.rows ++ [⟨made.account, true⟩], t.lastId + 1⟩)) ∧
    ∀ e r, (s.login q).perform x.registry = (.error e, r) →
      e = .authentication "Incorrect username or password." ∧ r.accounts = t := by
  have coherent := reached.coherent
  by_cases decided : q.username ≠ "" ∧ q.password ≠ "" ∧
      ((∃ row ∈ x.registry.accounts.rows, s.Accepts q row.account) ∨
        s.Welcomes x.registry.accounts q)
  · obtain ⟨username, password, ⟨row, hrow, accepts⟩ | welcomes⟩ := id decided
    · rw [perform_login_accepted coherent reached.salts fresh ⟨username, password⟩ hrow accepts]
      refine ⟨iff_of_true ⟨_, _, rfl⟩ decided, ?_, nofun⟩
      rintro made r ⟨⟩
      exact .inl ⟨row, hrow, accepts, rfl, rfl⟩
    · rw [perform_login_welcomed checked built coherent fresh ⟨username, password⟩ welcomes]
      refine ⟨iff_of_true ⟨_, _, rfl⟩ decided, ?_, nofun⟩
      rintro made r ⟨⟩
      refine .inr ⟨welcomes, rfl, ?_, rfl, rfl⟩
      exact Credentials.newPassword_verify
        (Credentials.newPassword_of_long _ _ (fresh.salts 1 (by decide)))
  · obtain ⟨draws, refused⟩ :=
      perform_login_refused checked built coherent reached.salts fresh decided
    have never : ∀ made r, (s.login q).perform x.registry ≠ (.ok made, r) := by
      intro made r done
      rw [refused, Prod.mk.injEq] at done
      cases done.1
    refine ⟨iff_of_false (fun ⟨made, r, done⟩ => never made r done) decided,
      fun made r done => absurd done (never made r), ?_⟩
    rw [refused]
    rintro e r ⟨⟩
    exact ⟨rfl, rfl⟩

/-- Alice, who has a session, is given another one. -/
theorem alice_logs_in :
    ∃ made r, (Scene.plain.login ⟨"alice", "secret1"⟩).perform Alice.registry = (.ok made, r) ∧
      made.account = { Alice.account with session := made.session.columns } ∧
      r.accounts = Alice.registry.accounts.withSession 1 made.session.columns := by
  have reached : Reached SeesStored Alice.run := Alice.reached fun _ _ same => nomatch same
  have fresh : Scene.plain.Fresh Alice.registry := by
    have tokens : ∀ i < 3, some (plain.random.token 2) ≠ some (plain.random.token (3 + i)) := by
      decide +kernel
    have uuids : ∀ i < 3, (plain.random.uuid 0).toText ≠ (plain.random.uuid (3 + i)).toText := by
      decide +kernel
    refine ⟨by decide, ?_, ?_⟩
    · intro i hi x hx
      obtain rfl : x = ⟨Alice.account, true⟩ := List.mem_singleton.mp hx
      exact tokens i hi
    · intro i hi x hx
      obtain rfl : x = ⟨Alice.account, true⟩ := List.mem_singleton.mp hx
      exact uuids i hi
  have accepts : Scene.plain.Accepts ⟨"alice", "secret1"⟩ Alice.account := by
    refine ⟨rfl, ?_⟩
    simp only [Credentials.Fits, Alice.account, AccountTable.NewAccount.toAccount, Alice.new]
    rfl
  have law := login_decides reached (by rfl) rfl fresh ⟨"alice", "secret1"⟩
  obtain ⟨made, r, done⟩ := law.1.mpr
    ⟨by decide, by decide, .inl ⟨⟨Alice.account, true⟩, List.mem_cons_self, accepts⟩⟩
  refine ⟨made, r, done, ?_⟩
  rcases law.2.1 made r done with ⟨row, hrow, -, same, stored⟩ | ⟨welcomes, -⟩
  · obtain rfl : row = ⟨Alice.account, true⟩ := List.mem_singleton.mp hrow
    exact ⟨same, stored⟩
  · exact absurd welcomes.allowed (by decide)

end Run

end PlayerRegistry
