import PlayerRegistry.Proofs.Interleavings
import PlayerRegistry.Proofs.Logins

/-!
# Stages of an anonymous login

The login of an anonymous player goes through stages, one atomic step after another: it looks the
name up, draws a UUID, a salt and a token, and makes an account; if another made it meanwhile, it
looks again and begins a session for that one. For each stage there is a lemma for each way on.
-/

namespace PlayerRegistry

namespace Work

variable {α β : Type} {r r' : Registry}

theorem takes_seeAccounts {f : AccountTable → Result α} {a : α} (h : f r.accounts = .ok a)
    (k : α → Work β) :
    (ExceptT.run (seeAccounts f >>= k)).Takes r (ExceptT.run (k a)) r := by
  refine ⟨_, _, rfl, ?_, rfl⟩
  dsimp only
  rw [h]
  rfl

theorem takes_onAccounts {f : AccountTable → Result α × AccountTable} {result : Result α}
    {t : AccountTable} (h : f r.accounts = (result, t)) (k : α → Work β) :
    (ExceptT.run (onAccounts f >>= k)).Takes r (ExceptT.bindCont k result)
      { r with accounts := t } := by
  refine ⟨_, _, rfl, ?_, ?_⟩
  · dsimp only
    rw [h]
    rfl
  · dsimp only
    rw [h]

theorem takes_tryCatch {w w' : Work α} (h : (ExceptT.run w).Takes r (ExceptT.run w') r')
    (handle : Error → Work α) :
    (ExceptT.run (tryCatch w handle)).Takes r (ExceptT.run (tryCatch w' handle)) r' := by
  rw [run_tryCatch, run_tryCatch]
  exact h.bind _

theorem takes_tryCatch_ok {w : Work α} {a : α} (h : (ExceptT.run w).Takes r (.done (.ok a)) r')
    (handle : Error → Work α) :
    (ExceptT.run (tryCatch w handle)).Takes r (.done (.ok a)) r' := by
  rw [run_tryCatch]
  exact h.bind _

theorem takes_tryCatch_error {w : Work α} {e : Error}
    (h : (ExceptT.run w).Takes r (.done (.error e)) r') (handle : Error → Work α) :
    (ExceptT.run (tryCatch w handle)).Takes r (ExceptT.run (handle e)) r' := by
  rw [run_tryCatch]
  exact h.bind _

end Work

namespace Scene

variable {α : Type} {s : Scene} {r : Registry}

theorem takes_findAccount {username : String} {found : Option Account}
    (h : r.accounts.findByUsername username = .ok found) (k : Option Account → Work α) :
    (ExceptT.run (findAccount username >>= k)).Takes r (ExceptT.run (k found)) r :=
  Work.takes_seeAccounts (f := (·.findByUsername username)) h k

theorem takes_newUuid (k : String → Work α) :
    (ExceptT.run (s.newUuid >>= k)).Takes r (ExceptT.run (k (s.random.uuid r.draws).toText))
      { r with draws := r.draws + 1 } :=
  ⟨_, _, rfl, rfl, rfl⟩

theorem takes_newSession (k : Session → Work α) :
    (ExceptT.run (s.newSession >>= k)).Takes r (ExceptT.run (k (s.nextSession r)))
      { r with draws := r.draws + 1 } :=
  ⟨_, _, rfl, rfl, rfl⟩

theorem takes_newPassword {password : String} {kept : PasswordHash}
    (h : s.service.credentials.newPassword password (s.random.salt r.draws) = .ok kept)
    (k : PasswordHash → Work α) :
    (ExceptT.run (s.newPassword password >>= k)).Takes r (ExceptT.run (k kept))
      { r with draws := r.draws + 1 } := by
  refine ⟨_, _, rfl, ?_, rfl⟩
  change ExceptT.run (Work.ofResult (s.service.credentials.newPassword password
    (s.random.salt r.draws)) >>= k) = _
  rw [h]
  rfl

/-- Stores the session of an account. -/
def storeSession (a : Account) (session : Session) : Work SignedIn := do
  let account ← Work.onAccounts fun t => t.issue a session
  return ⟨account, session⟩

theorem beginSession_eq (s : Scene) (a : Account) :
    s.beginSession a = s.newSession >>= storeSession a := rfl

/-- Stores a new account with its session. -/
def storeAccount (s : Scene) (username uuid : String) (kept : PasswordHash) (session : Session) :
    Work SignedIn := do
  let account ← Work.onAccounts fun t => t.create {
    uuid := uuid
    username := username
    playerName := username
    password := kept
    language := s.service.config.defaultPreferredLanguage
    skinModel := .classic
    session := session.columns }
  return ⟨account, session⟩

theorem createAccount_eq (s : Scene) (username password uuid : String) :
    s.createAccount username password uuid =
      s.newPassword password >>= fun kept => s.newSession >>= s.storeAccount username uuid kept :=
  rfl

/-- What an anonymous login does when its account could not be made. -/
def recover (s : Scene) (q : LoginRequest) : Error → Work SignedIn
  | .conflict _ => do
    match ← findAccount q.username with
    | some a => s.loginTo a q.password
    | none => throw loginRefused
  | e => throw e

theorem loginAnonymously_eq (s : Scene) (q : LoginRequest) :
    s.loginAnonymously q = s.newUuid >>= fun uuid =>
      tryCatch (s.createAccount q.username q.password uuid) (s.recover q) := rfl

end Scene

/-- How far the login of an anonymous player has come. The numbers are those of draws. -/
inductive LoginStage where
  | waiting
  /-- Nobody has the name. -/
  | unknown
  | identified (uuid : Nat)
  | salted (uuid salt : Nat)
  | ready (uuid salt token : Nat)
  /-- Somebody has the name, or something else of the new account, after all. -/
  | clashed
  /-- The account has the name, and a password that fits. -/
  | known (a : Account)
  | minted (a : Account) (token : Nat)
  | ended (a : Account) (token : Nat)

namespace LoginStage

variable {s : Scene} {q : LoginRequest} {r : Registry}

/-- The password as it is kept under the salt of a draw. -/
def kept (s : Scene) (q : LoginRequest) (salt : Nat) : PasswordHash :=
  ⟨s.random.salt salt, Argon2.hash s.service.credentials.cost Credentials.hashLength
    q.password.toUTF8 (s.random.salt salt)⟩

/-- The session that is made of a draw. -/
def session (s : Scene) (token : Nat) : Session := Session.mint (s.random.token token) s.now

/-- The account that is made of three draws. -/
def made (s : Scene) (q : LoginRequest) (uuid salt token : Nat) : NewAccount where
  uuid := (s.random.uuid uuid).toText
  username := q.username
  playerName := q.username
  password := kept s q salt
  language := s.service.config.defaultPreferredLanguage
  skinModel := .classic
  session := (session s token).columns

/-- What is left to be done. -/
def flow (s : Scene) (q : LoginRequest) : LoginStage → Flow Registry (Result SignedIn)
  | waiting => ExceptT.run (s.login q)
  | unknown => ExceptT.run (s.loginAnonymously q)
  | identified i => ExceptT.run (tryCatch
      (s.createAccount q.username q.password (s.random.uuid i).toText) (s.recover q))
  | salted i j => ExceptT.run (tryCatch
      (s.newSession >>= s.storeAccount q.username (s.random.uuid i).toText (kept s q j))
      (s.recover q))
  | ready i j k => ExceptT.run (tryCatch
      (s.storeAccount q.username (s.random.uuid i).toText (kept s q j) (session s k)) (s.recover q))
  | clashed => ExceptT.run (s.recover q AccountTable.taken)
  | known a => ExceptT.run (s.beginSession a)
  | minted a k => ExceptT.run (Scene.storeSession a (session s k))
  | ended a k => .done (.ok ⟨a, session s k⟩)

theorem run_loginTo {a : Account} {password : String}
    (salt : 8 ≤ a.profile.password.salt.size)
    (fits : s.service.credentials.Fits password a.profile.password) :
    ExceptT.run (s.loginTo a password) = (known a).flow s q := by
  rw [Scene.loginTo, Credentials.verify_iff.mpr ⟨salt, fits⟩]
  rfl

theorem waiting_unknown (given : ¬(q.username = "" ∨ q.password = ""))
    (unknown : r.accounts.findByUsername q.username = .ok none)
    (anonymous : s.isAnonymous q = true) :
    (waiting.flow s q).Takes r (LoginStage.unknown.flow s q) r := by
  have chosen : ExceptT.run (if s.isAnonymous q then s.loginAnonymously q
      else throw Scene.loginRefused) = LoginStage.unknown.flow s q := by rw [if_pos anonymous, flow]
  rw [flow, Scene.login, if_neg given, ← chosen]
  exact Scene.takes_findAccount unknown _

theorem waiting_known (given : ¬(q.username = "" ∨ q.password = "")) {a : Account}
    (found : r.accounts.findByUsername q.username = .ok (some a))
    (salt : 8 ≤ a.profile.password.salt.size)
    (fits : s.service.credentials.Fits q.password a.profile.password) :
    (waiting.flow s q).Takes r ((known a).flow s q) r := by
  rw [flow, Scene.login, if_neg given, ← run_loginTo salt fits]
  exact Scene.takes_findAccount found _

theorem unknown_identified :
    (unknown.flow s q).Takes r ((identified r.draws).flow s q)
      { r with draws := r.draws + 1 } := by
  rw [flow, Scene.loginAnonymously_eq]
  exact Scene.takes_newUuid _

theorem identified_salted {i : Nat} (salt : 8 ≤ (s.random.salt r.draws).size) :
    ((identified i).flow s q).Takes r ((salted i r.draws).flow s q)
      { r with draws := r.draws + 1 } := by
  rw [flow, Scene.createAccount_eq]
  exact Work.takes_tryCatch (Scene.takes_newPassword
    (Credentials.newPassword_of_long _ q.password salt) _) _

theorem salted_ready {i j : Nat} :
    ((salted i j).flow s q).Takes r ((ready i j r.draws).flow s q)
      { r with draws := r.draws + 1 } := by
  rw [flow]
  exact Work.takes_tryCatch (Scene.takes_newSession _) _

theorem ready_ended {i j k : Nat} {a : Account} {t : AccountTable}
    (created : r.accounts.create (made s q i j k) = (.ok a, t)) :
    ((ready i j k).flow s q).Takes r ((ended a k).flow s q) { r with accounts := t } := by
  rw [flow, Scene.storeAccount]
  exact Work.takes_tryCatch_ok
    (Work.takes_onAccounts (f := (·.create (made s q i j k))) created _) _

theorem ready_clashed {i j k : Nat}
    (refused : r.accounts.create (made s q i j k) = (.error AccountTable.taken, r.accounts)) :
    ((ready i j k).flow s q).Takes r (clashed.flow s q) r := by
  rw [flow, Scene.storeAccount]
  exact Work.takes_tryCatch_error
    (Work.takes_onAccounts (f := (·.create (made s q i j k))) refused _) _

theorem clashed_known {a : Account}
    (found : r.accounts.findByUsername q.username = .ok (some a))
    (salt : 8 ≤ a.profile.password.salt.size)
    (fits : s.service.credentials.Fits q.password a.profile.password) :
    (clashed.flow s q).Takes r ((known a).flow s q) r := by
  rw [flow, ← run_loginTo salt fits]
  exact Scene.takes_findAccount found _

theorem known_minted {a : Account} :
    ((known a).flow s q).Takes r ((minted a r.draws).flow s q)
      { r with draws := r.draws + 1 } := by
  rw [flow, Scene.beginSession_eq]
  exact Scene.takes_newSession _

theorem minted_ended {a : Account} {k : Nat} {t : AccountTable}
    (stored : r.accounts.setSession a.id (session s k).token (session s k).expiresAt =
      (.ok (), t)) :
    ((minted a k).flow s q).Takes r
      ((ended { a with session := (session s k).columns } k).flow s q)
      { r with accounts := t } := by
  have issued : r.accounts.issue a (session s k) =
      (.ok { a with session := (session s k).columns }, t) := by
    rw [AccountTable.issue, stored]
  rw [flow, Scene.storeSession]
  exact Work.takes_onAccounts (f := (·.issue a (session s k))) issued _

end LoginStage

end PlayerRegistry
