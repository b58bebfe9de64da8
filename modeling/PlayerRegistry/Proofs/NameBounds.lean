import PlayerRegistry.Proofs.Logins
import PlayerRegistry.Proofs.StoredAccounts

/-!
# The lengths of names

Registrations and updates check the names that they write, but an anonymous login takes any name
that the configured pattern covers. So names fit in every run exactly if the pattern admits none
that a registration would refuse.
-/

namespace PlayerRegistry

open AccountTable (Statement)

/-- A player name that game clients accept. -/
def FitsClients (name : String) : Prop := 1 ≤ name.length ∧ name.length ≤ 16

/-- A username that is not blank and not too long. -/
def FitsAccount (username : String) : Prop :=
  Text.trim username.toList ≠ [] ∧ username.length ≤ 16

structure Account.WellNamed (a : Account) : Prop where
  playerName : FitsClients a.profile.playerName
  username : FitsAccount a.username

/-- What the pattern admits, where there is a password to log in with, fits. -/
def Service.AdmitsOnlyFitting (service : Service) : Prop :=
  ∀ username, username ≠ "" → service.policy.canLoginAnonymously username = true →
    service.policy.anonymousPassword ≠ "" → FitsAccount username

theorem FitsAccount.fitsClients {username : String} (h : FitsAccount username) :
    FitsClients username := by
  refine ⟨?_, h.2⟩
  by_contra short
  have empty : username = "" := by
    rw [← String.length_eq_zero_iff]
    omega
  subst empty
  exact h.1 rfl

theorem checkUsername_iff (username : String) :
    Field.checkUsername username = .ok () ↔ FitsAccount username := by
  have bound : maxPlayerName = 16 := rfl
  rw [Field.checkUsername, FitsAccount]
  by_cases blank : Text.trim username.toList = []
  · simp [blank]
  · rw [if_neg blank]
    by_cases long : maxPlayerName < username.length
    · rw [if_pos long]
      apply iff_of_false (by simp)
      intro h
      omega
    · rw [if_neg long]
      exact iff_of_true rfl ⟨blank, by omega⟩

namespace AccountTable

def AllWellNamed (t : AccountTable) : Prop := ∀ x ∈ t.rows, x.account.WellNamed

end AccountTable

namespace Run

/-- All that a service does: what an update has seen of its account was stored once. -/
def Serves (service : Service) (x : Run) (s : Scene) (op : Operation) : Prop :=
  s.service = service ∧ ∀ a q, op = .update a q → x.Stored a

/-- Nothing but logins. -/
def ServesLogins (service : Service) (_ : Run) (s : Scene) (op : Operation) : Prop :=
  s.service = service ∧ ∃ q, op = .login q

end Run

/-- What an update saves has a name that was there before or that has been checked. -/
theorem Scene.Updates.fitsClients {s : Scene} {a b : Account} {q : UpdateRequest}
    (h : s.Updates a q b) (fits : FitsClients a.profile.playerName) :
    FitsClients b.profile.playerName := by
  by_cases sets : q.Sets .playerName
  · have granted : q.playerName = some b.profile.playerName := h.granted .playerName sets
    have checked := h.faultless.1
    rw [UpdateRequest.nameFault, granted, Option.bind_some] at checked
    by_contra bad
    have bad : ¬(1 ≤ b.profile.playerName.length ∧ b.profile.playerName.length ≤ 16) := bad
    rw [if_neg bad] at checked
    cases checked
  · have kept : b.profile.playerName = a.profile.playerName := h.kept .playerName sets
    exact kept ▸ fits

/-- Where only fitting names are admitted, operations write no others. -/
theorem Operation.Issues.wellNamed {service : Service} (admits : service.AdmitsOnlyFitting)
    {s : Scene} (serves : s.service = service) {op : Operation}
    (seen : ∀ a q, op = .update a q → FitsClients a.profile.playerName) {stmt : Statement}
    (h : op.Issues s stmt) : stmt.Preserves Account.WellNamed := by
  have named : ∀ {name given text new}, s.Makes name given text new → FitsAccount name →
      (Statement.create new).Preserves Account.WellNamed := by
    intro name given text new makes fits id
    have username : (AccountTable.NewAccount.toAccount new id).username = name := makes.username
    have playerName : (AccountTable.NewAccount.toAccount new id).profile.playerName = name :=
      makes.playerName
    exact ⟨playerName ▸ fits.fitsClients, username ▸ fits⟩
  cases stmt with
  | create new =>
    cases op with
    | register q =>
      obtain ⟨checked, _, -, makes⟩ := h
      exact named makes ((checkUsername_iff _).mp checked)
    | login q =>
      obtain ⟨given, anonymous, _, makes⟩ := h
      obtain ⟨welcome, password, -⟩ := Scene.isAnonymous_iff.mp anonymous
      rw [serves] at welcome password
      exact named makes (admits _ given welcome password)
    | _ => cases h
  | save b =>
    cases op with
    | update a q =>
      have updates : s.Updates a q b := h
      intro c named
      exact ⟨updates.fitsClients (seen a q rfl), named.username⟩
    | _ => cases h
  | setSession => exact fun _ named => ⟨named.playerName, named.username⟩
  | clearSession => exact fun _ named => ⟨named.playerName, named.username⟩
  | delete => trivial

theorem Run.Reached.wellNamed {service : Service} (admits : service.AdmitsOnlyFitting) {x : Run}
    (h : Reached (Serves service) x) : x.registry.accounts.AllWellNamed := by
  refine (h.alwaysAll (P := Account.WellNamed) ?_).now
  intro x s op serves always stmt issues
  refine issues.wellNamed admits serves.1 ?_
  intro a q hop
  exact always.of_stored (Q := fun p => FitsClients p.playerName) (fun _ named => named.playerName)
    (serves.2 a q hop)

namespace Scene

open Work

/-- The first login of an anonymous player makes an account with whatever name is given. -/
theorem login_anonymous {s : Scene} {q : LoginRequest} (given : q.username ≠ "")
    (anonymous : s.isAnonymous q = true) (salt : 8 ≤ (s.random.salt 1).size) :
    ∃ a : Account, a.username = q.username ∧ a.profile.playerName = q.username ∧
      ((s.login q).perform .empty).2.accounts.rows = [⟨a, true⟩] := by
  have password : q.password ≠ "" := by
    obtain ⟨-, has, same⟩ := isAnonymous_iff.mp anonymous
    exact same ▸ has
  have none : ∀ x ∈ Registry.empty.accounts.rows, AccountTable.clashes (s.newAccount q.username
      q.password (s.random.uuid 0).toText 1) x.account = false := fun _ hx => nomatch hx
  refine ⟨(s.welcomed .empty q).account, rfl, rfl, ?_⟩
  rw [perform_login_unknown ⟨given, password⟩ rfl, if_pos anonymous,
    perform_loginAnonymously salt none]
  rfl

end Scene

namespace Run

/-- A name that the pattern covers becomes the name of an account in a single login. -/
theorem reached_anonymous (service : Service) {username : String} (given : username ≠ "")
    (welcome : service.policy.canLoginAnonymously username = true)
    (password : service.policy.anonymousPassword ≠ "") :
    ∃ x a, Reached (ServesLogins service) x ∧ x.registry.accounts.rows = [⟨a, true⟩] ∧
      a.username = username ∧ a.profile.playerName = username := by
  have anonymous : (Scene.quiet service).isAnonymous
      ⟨username, service.policy.anonymousPassword⟩ = true :=
    Scene.isAnonymous_iff.mpr ⟨welcome, password, rfl⟩
  have salt : 8 ≤ (Scene.plain.random.salt 1).size := by decide
  obtain ⟨a, hu, hp, rows⟩ := Scene.login_anonymous given anonymous salt
  have begins : ServesLogins service start (.quiet service)
      (.login ⟨username, service.policy.anonymousPassword⟩) := ⟨rfl, _, rfl⟩
  obtain ⟨x, -, reached, same⟩ := Reached.perform .refl begins
  refine ⟨x, a, reached, ?_, hu, hp⟩
  rw [same, ← rows]
  exact congrArg (·.accounts.rows) (Work.perform_ended _ _)

/-- The names of all accounts fit, whatever a service does, exactly if its anonymous players may
take only names that fit. If they may take others, a login is enough for an account that does not
fit. -/
theorem names_fit_exactly (service : Service) :
    (service.AdmitsOnlyFitting →
      ∀ x, Reached (Serves service) x → x.registry.accounts.AllWellNamed) ∧
    (¬service.AdmitsOnlyFitting →
      ∃ x, Reached (ServesLogins service) x ∧ ¬x.registry.accounts.AllWellNamed) := by
  constructor
  · intro admits x reached
    exact reached.wellNamed admits
  · intro admitsOther
    simp only [Service.AdmitsOnlyFitting, not_forall] at admitsOther
    obtain ⟨username, given, welcome, password, unfit⟩ := admitsOther
    obtain ⟨x, a, reached, rows, hu, -⟩ := reached_anonymous service given welcome password
    refine ⟨x, reached, ?_⟩
    intro all
    have named : a.WellNamed := all ⟨a, true⟩ (by simp [rows])
    exact unfit (hu ▸ named.username)

/-- Anonymous players may take any name of small letters. -/
def openConfig : Config := { anonymousLogin := ⟨true, "[a-z]+", "welcome"⟩ }

/-- With seventeen letters, the username is longer than a registration allows. -/
theorem anonymous_name_too_long :
    ∃ policy x a, Policy.ofConfig openConfig = .ok policy ∧
      Reached (ServesLogins { Service.plain with config := openConfig, policy }) x ∧
      x.registry.accounts.rows = [⟨a, true⟩] ∧
      a.username = "aaaaaaaaaaaaaaaaa" ∧ a.profile.playerName.length = 17 ∧
      Field.checkUsername a.username ≠ .ok () := by
  have covers : (Policy.ofConfig openConfig).toOption.map (fun p =>
      (p.canLoginAnonymously "aaaaaaaaaaaaaaaaa", p.anonymousPassword)) =
      some (true, "welcome") := by
    decide +kernel
  cases built : Policy.ofConfig openConfig with
  | error e => simp [built, Except.toOption] at covers
  | ok policy =>
    simp only [built, Except.toOption, Option.map_some, Option.some.injEq, Prod.mk.injEq]
      at covers
    obtain ⟨welcome, shared⟩ := covers
    have password : policy.anonymousPassword ≠ "" := by
      rw [shared]
      decide
    obtain ⟨x, a, reached, rows, username, playerName⟩ := reached_anonymous
      { Service.plain with config := openConfig, policy } (by decide) welcome password
    refine ⟨policy, x, a, rfl, reached, rows, username, ?_, ?_⟩
    · rw [playerName]
      decide
    · rw [username, Ne, checkUsername_iff]
      rintro ⟨-, short⟩
      exact absurd short (by decide)

end Run

end PlayerRegistry
