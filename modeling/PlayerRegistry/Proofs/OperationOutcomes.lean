import PlayerRegistry.Proofs.RecordedTextures

/-!
# What comes of operations

Registrations, logins and updates that are done alone: they fail and leave the accounts as they
are, or they succeed and change them in one place.
-/

namespace PlayerRegistry

namespace AccountTable

/-- The table with one more account. -/
def add (t : AccountTable) (a : Account) : AccountTable :=
  ⟨t.rows ++ [⟨a, true⟩], t.lastId + 1⟩

end AccountTable

theorem Work.Within.accounts {α : Type} {Q : α → Prop} {w : Work α}
    (h : Work.Within (Work.Statements fun _ => False) Q w) (r : Registry) :
    (w.perform r).2.accounts = r.accounts := by
  refine (Flow.Within.run h (R := fun r r' => r'.accounts = r.accounts) ?_ ?_ ?_ r).2
  · exact fun _ => rfl
  · intro r₁ r₂ r₃ first second
    exact second.trans first
  · rintro update (quiet | ⟨_, impossible, -⟩) r
    · exact quiet r
    · exact impossible.elim

namespace Scene

open Work

variable {s : Scene} {r : Registry}

theorem accounts_register (s : Scene) (q : RegisterRequest) (r : Registry) :
    (∃ e r', (s.register q).perform r = (.error e, r') ∧ r'.accounts = r.accounts) ∨
      ∃ made r', (s.register q).perform r = (.ok made, r') ∧
        made.account.username = q.username ∧ r'.accounts = r.accounts.add made.account := by
  have identify : ∀ {text r₁}, (s.uuidFor q).perform r = (text, r₁) →
      r₁.accounts = r.accounts := by
    intro text r₁ identified
    have same := (within_uuidFor (S := fun _ => False) s q).accounts r
    rwa [identified] at same
  rcases done : (s.register q).perform r with ⟨e | made, r'⟩
  · refine .inl ⟨e, r', rfl, ?_⟩
    rcases perform_register_error done with ⟨-, rfl⟩ | failed | ⟨text, r₁, e', first, failed, -⟩
    · rfl
    · exact identify failed
    · obtain ⟨⟨draws, rfl⟩, -⟩ := perform_createAccount_error failed
      change r₁.accounts = r.accounts
      exact identify first
  · obtain ⟨-, text, r₁, first, created⟩ := perform_register_ok done
    obtain ⟨-, -, account, rfl⟩ := perform_createAccount_ok created
    refine .inr ⟨made, _, rfl, by rw [account]; rfl, ?_⟩
    rw [← identify first]
    rfl

theorem accounts_beginSession (s : Scene) (a : Account) (r : Registry) :
    (∃ e r', (s.beginSession a).perform r = (.error e, r') ∧ r'.accounts = r.accounts) ∨
      ∃ made r', (s.beginSession a).perform r = (.ok made, r') ∧
        r'.accounts = r.accounts.withSession a.id made.session.columns := by
  have issued : (Work.onAccounts fun t => t.issue a (s.nextSession r)).perform
      { r with draws := r.draws + 1 } = ((r.accounts.issue a (s.nextSession r)).1,
        { r with accounts := (r.accounts.issue a (s.nextSession r)).2, draws := r.draws + 1 }) :=
    rfl
  rw [beginSession, perform_bind_ok (perform_newSession s r)]
  rw [AccountTable.issue] at issued
  rcases AccountTable.setSession_cases r.accounts a.id (s.nextSession r).token
    (s.nextSession r).expiresAt with ⟨-, he⟩ | ⟨-, -, he⟩ | ⟨-, -, he⟩
  all_goals rw [he] at issued
  · exact .inl ⟨_, _, perform_bind_error issued _, rfl⟩
  · exact .inl ⟨_, _, perform_bind_error issued _, rfl⟩
  · exact .inr ⟨_, _, perform_bind_ok issued _, rfl⟩

theorem accounts_loginTo (s : Scene) (a : Account) (password : String) (r : Registry) :
    (∃ e r', (s.loginTo a password).perform r = (.error e, r') ∧ r'.accounts = r.accounts) ∨
      ∃ made r', (s.loginTo a password).perform r = (.ok made, r') ∧
        r'.accounts = r.accounts.withSession a.id made.session.columns := by
  have verified : (ofResult (s.service.credentials.verify password a.profile.password)).perform r =
      (s.service.credentials.verify password a.profile.password, r) := rfl
  rw [loginTo]
  rcases result : s.service.credentials.verify password a.profile.password with e | valid
  all_goals rw [result] at verified
  · exact .inl ⟨e, r, perform_bind_error verified _, rfl⟩
  · rw [perform_bind_ok verified]
    cases valid with
    | false => exact .inl ⟨loginRefused, r, rfl, rfl⟩
    | true => exact accounts_beginSession s a r

/-- What a login may do to the accounts: begin a session for the account of the name, or add one. -/
def LogsIn (q : LoginRequest) (t t' : AccountTable) (made : SignedIn) : Prop :=
  (∃ x ∈ t.rows, x.account.username = q.username ∧
    t' = t.withSession x.account.id made.session.columns) ∨
  (made.account.username = q.username ∧ t' = t.add made.account)

theorem accounts_loginAnonymously (coherent : r.accounts.Coherent) (s : Scene) (q : LoginRequest) :
    (∃ e r', (s.loginAnonymously q).perform r = (.error e, r') ∧ r'.accounts = r.accounts) ∨
      ∃ made r', (s.loginAnonymously q).perform r = (.ok made, r') ∧
        LogsIn q r.accounts r'.accounts made := by
  rw [loginAnonymously, perform_bind_ok (perform_newUuid s r)]
  rcases created : (s.createAccount q.username q.password (s.random.uuid r.draws).toText).perform
    { r with draws := r.draws + 1 } with ⟨e | made, r₁⟩
  · obtain ⟨⟨draws, rfl⟩, -⟩ := perform_createAccount_error created
    rw [perform_tryCatch_error created]
    cases e with
    | conflict text =>
      have looked : (findAccount q.username).perform { r with draws } =
          (r.accounts.findByUsername q.username, { r with draws }) := rfl
      rcases coherent.findByUsername_cases q.username with ⟨x, hx, named, known⟩ | ⟨-, unknown⟩
      · rw [known] at looked
        dsimp only
        rw [perform_bind_ok looked]
        rcases accounts_loginTo s x.account q.password { r with draws } with
          ⟨e, r', failed, same⟩ | ⟨made, r', done, begun⟩
        · exact .inl ⟨e, r', failed, same⟩
        · exact .inr ⟨made, r', done, .inl ⟨x, hx, named, begun⟩⟩
      · rw [unknown] at looked
        exact .inl ⟨_, _, perform_bind_ok looked _, rfl⟩
    | _ => exact .inl ⟨_, _, rfl, rfl⟩
  · obtain ⟨-, -, account, rfl⟩ := perform_createAccount_ok created
    refine .inr ⟨made, _, perform_tryCatch_ok created _, .inr ⟨?_, rfl⟩⟩
    rw [account]
    rfl

theorem accounts_login (coherent : r.accounts.Coherent) (s : Scene) (q : LoginRequest) :
    (∃ e r', (s.login q).perform r = (.error e, r') ∧ r'.accounts = r.accounts) ∨
      ∃ made r', (s.login q).perform r = (.ok made, r') ∧
        LogsIn q r.accounts r'.accounts made := by
  by_cases given : q.username ≠ "" ∧ q.password ≠ ""
  · rcases coherent.findByUsername_cases q.username with ⟨x, hx, named, known⟩ | ⟨-, unknown⟩
    · rw [perform_login_known given known]
      rcases accounts_loginTo s x.account q.password r with
        ⟨e, r', failed, same⟩ | ⟨made, r', done, begun⟩
      · exact .inl ⟨e, r', failed, same⟩
      · exact .inr ⟨made, r', done, .inl ⟨x, hx, named, begun⟩⟩
    · rw [perform_login_unknown given unknown]
      by_cases anonymous : s.isAnonymous q = true
      · rw [if_pos anonymous]
        exact accounts_loginAnonymously coherent s q
      · rw [if_neg anonymous]
        exact .inl ⟨_, _, rfl, rfl⟩
  · exact .inl ⟨_, _, perform_login_blank (by simpa [or_iff_not_and_not] using given), rfl⟩

/-- An update that succeeds saves an account with the id of the one that it has seen. -/
theorem accounts_updateProfile (s : Scene) (a : Account) (q : UpdateRequest) (r : Registry) :
    (∃ e r', (s.updateProfile a q).perform r = (.error e, r') ∧ r'.accounts = r.accounts ∧
      (e = .rateLimited → r'.textures = r.textures)) ∨
      ∃ b r', (s.updateProfile a q).perform r = (.ok b, r') ∧ s.Updates a q b ∧
        r'.accounts = r.accounts.modify a.id fun x =>
          ⟨{ x.account with profile := b.profile }, true⟩ := by
  have outcome := s.outcome_updateProfile a q r
  rcases done : (s.updateProfile a q).perform r with ⟨result, r'⟩
  rw [done] at outcome
  cases outcome with
  | fault _ accounts textures => exact .inl ⟨_, r', rfl, accounts, fun _ => textures⟩
  | unhashed _ _ accounts => exact .inl ⟨_, r', rfl, accounts, nofun⟩
  | refused _ _ accounts => exact .inl ⟨_, r', rfl, accounts, nofun⟩
  | @save b r₁ _ prepared =>
    have own : b.id = a.id := by rw [prepared.updates.rest]
    rcases AccountTable.save_cases r.accounts b with ⟨-, he⟩ | ⟨-, -, he⟩ | ⟨-, -, he⟩
    all_goals rw [he]
    · exact .inl ⟨_, _, rfl, rfl, nofun⟩
    · exact .inl ⟨_, _, rfl, rfl, nofun⟩
    · refine .inr ⟨b, _, rfl, prepared.updates, ?_⟩
      rw [own]

/-- An update that succeeds has passed its checks and saved what it had prepared. -/
theorem updateProfile_ok {a b : Account} {q : UpdateRequest} {r' : Registry}
    (done : (s.updateProfile a q).perform r = (.ok b, r')) :
    firstFault (s.checkFaults a q) = none ∧ ∃ r₁, s.Prepared a q r b r₁ ∧
      r' = { r₁ with accounts := r.accounts.modify b.id fun x =>
        ⟨{ x.account with profile := b.profile }, true⟩ } := by
  have outcome := s.outcome_updateProfile a q r
  rw [done] at outcome
  generalize hout : ((.ok b, r') : Result Account × Registry) = out at outcome
  cases outcome with
  | fault => cases hout
  | unhashed => cases hout
  | refused => cases hout
  | @save c r₁ passed prepared =>
    rcases AccountTable.save_cases r.accounts c with ⟨-, he⟩ | ⟨-, -, he⟩ | ⟨-, -, he⟩
    all_goals
      rw [he] at hout
      cases hout
    exact ⟨passed, r₁, prepared, rfl⟩

end Scene

end PlayerRegistry
