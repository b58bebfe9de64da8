import PlayerRegistry.Proofs.NameBounds
import PlayerRegistry.Proofs.OperationOutcomes
import PlayerRegistry.Proofs.ServedConfigs
import PlayerRegistry.Proofs.SessionHistory
import PlayerRegistry.Proofs.UuidIdentity

/-!
# What a registration decides

A registration of a new player succeeds exactly if nothing is wrong with it, and its faults are
looked for in a fixed order: the username and the password, then what is allowed, then the chosen
UUID, and last what other accounts have. Nothing is stored before all of this has passed.
-/

namespace PlayerRegistry

/-- A fault that is there under a condition. -/
def faultIf (wrong : Prop) [Decidable wrong] (e : Error) : Option Error :=
  if wrong then some e else none

@[simp]
theorem faultIf_eq_none {wrong : Prop} [Decidable wrong] {e : Error} :
    faultIf wrong e = none ↔ ¬wrong := by
  simp [faultIf]

/-- The parts of a service go by its configuration. -/
theorem Service.parts_of_assemble {c : Config} {cost : Argon2.Cost} {key : SigningKey}
    {service : Service} (assembled : assemble c cost key = .ok service) :
    service.policy.config = c ∧ service.credentials = ⟨cost, c.minPasswordLength⟩ := by
  cases policy : Policy.ofConfig c with
  | error e =>
    rw [assemble_of_error policy] at assembled
    cases assembled
  | ok p =>
    rw [assemble_of_ok policy] at assembled
    cases limited : limiterOf c with
    | error e =>
      rw [limited] at assembled
      cases assembled
    | ok l =>
      rw [limited] at assembled
      cases assembled
      exact ⟨Policy.config_of_config policy, rfl⟩

/-- An account that clashes with none of a table can stand in it. -/
theorem AccountTable.Coherent.add {t : AccountTable} (h : t.Coherent) {new : NewAccount}
    (free : ∀ x ∈ t.rows, clashes new x.account = false) :
    (t.add (NewAccount.toAccount new (t.lastId + 1 : Nat))).Coherent := by
  have kept := h.create new
  rcases create_cases t new with ⟨⟨x, hx, clash⟩, -⟩ | ⟨-, he⟩
  · exact absurd (clash.symm.trans (free x hx)) (by decide)
  · rwa [he] at kept

namespace Scene

/-- Draws have as many bytes as are asked for, and the next three make tokens that are not in use;
a registration takes no more. -/
structure Supplied (s : Scene) (r : Registry) : Prop where
  full : ∀ k n, (s.random.draw k n).size = n
  unused : ∀ i < 3, ∀ x ∈ r.accounts.rows,
    x.account.session.token ≠ some (s.random.token (r.draws + i))

/-- The UUID that a new account would get: the chosen one, however it is spelled, or the one that
is drawn next. -/
inductive Gives (s : Scene) (r : Registry) (q : RegisterRequest) : Uuid → Prop where
  | chosen {text u} : q.chosenUuid = some text → u.Spells (Text.trim text.toList) → Gives s r q u
  | drawn : q.chosenUuid = none → Gives s r q (s.random.uuid r.draws)

/-- The account has what only one account may have: the name, in either place, or the UUID. -/
def Meets (a : Account) (q : RegisterRequest) (u : Uuid) : Prop :=
  a.username = q.username ∨ a.profile.playerName = q.username ∨ a.uuid = u.toText

instance (a : Account) (q : RegisterRequest) (u : Uuid) : Decidable (Meets a q u) :=
  inferInstanceAs (Decidable (_ ∨ _ ∨ _))

/-- All that a registration needs, apart from what other accounts have. -/
structure Permits (s : Scene) (r : Registry) (q : RegisterRequest) (u : Uuid) : Prop where
  username : FitsAccount q.username
  password : q.password ≠ "" ∧ s.service.config.minPasswordLength ≤ q.password.length
  allowed : s.service.config.newPlayers.allow = true
  choice : q.chosenUuid.isSome → s.service.config.newPlayers.allowChoosingUuid = true
  uuid : s.Gives r q u

/-- All that a registration needs. -/
structure Registers (s : Scene) (r : Registry) (q : RegisterRequest) (u : Uuid) : Prop
    extends s.Permits r q u where
  free : ∀ x ∈ r.accounts.rows, ¬Meets x.account q u

/-- The account that is made of a registration, and its session. -/
structure Registered (s : Scene) (t : AccountTable) (q : RegisterRequest) (u : Uuid)
    (made : SignedIn) : Prop where
  id : made.account.id = (t.lastId + 1 : Nat)
  uuid : made.account.uuid = u.toText
  username : made.account.username = q.username
  playerName : made.account.profile.playerName = q.username
  password : s.service.credentials.verify q.password made.account.profile.password = .ok true
  language : made.account.profile.language = s.service.config.defaultPreferredLanguage
  skinModel : made.account.profile.skinModel = .classic
  textures : ∀ kind, made.account.profile.textureHash kind = none
  session : made.account.session = ⟨some made.session.token, some made.session.expiresAt⟩
  expiresAt : made.session.expiresAt = s.now.addSeconds (24 * 60 * 60)
  tokenPairs : made.account.tokenPairs = []

def usernameFaults (q : RegisterRequest) : List (Option Error) :=
  [faultIf (Text.trim q.username.toList = [])
      (.validation "username" "username can't be blank"),
    faultIf (16 < q.username.length)
      (.validation "username" "username must be 16 characters or less")]

def passwordFaults (s : Scene) (q : RegisterRequest) : List (Option Error) :=
  [faultIf (q.password = "") (.validation "password" "password can't be blank"),
    faultIf (q.password.length < s.service.config.minPasswordLength)
      (.validation "password" ("password must be at least "
        ++ toString (max s.service.config.minPasswordLength 1) ++ " characters"))]

/-- What can be wrong with the username and the password. -/
def entryFaults (s : Scene) (q : RegisterRequest) : List (Option Error) :=
  usernameFaults q ++ s.passwordFaults q

/-- What may not be allowed. -/
def policyFaults (s : Scene) (q : RegisterRequest) : List (Option Error) :=
  [faultIf (s.service.config.newPlayers.allow = false) (.forbidden "Registration is disabled."),
    faultIf (q.chosenUuid.isSome ∧ s.service.config.newPlayers.allowChoosingUuid = false)
      (.forbidden "Choosing a UUID is not allowed.")]

def uuidOf? (s : Scene) (r : Registry) (q : RegisterRequest) : Option Uuid :=
  match q.chosenUuid with
  | some text => Uuid.ofChars? (Text.trim text.toList)
  | none => some (s.random.uuid r.draws)

/-- What can be wrong where a UUID is looked for. -/
def uuidFaults (s : Scene) (r : Registry) (q : RegisterRequest) : List (Option Error) :=
  s.policyFaults q ++
    [faultIf (s.uuidOf? r q = none) (.validation "chosenUuid" "not a valid UUID")]

def clashFault (s : Scene) (r : Registry) (q : RegisterRequest) : Option Error :=
  (s.uuidOf? r q).bind fun u =>
    faultIf (∃ x ∈ r.accounts.rows, Meets x.account q u) (.conflict "That username is taken.")

/-- All that can be wrong with the registration of a new player, in the order in which it is
noticed. -/
def registerFaults (s : Scene) (r : Registry) (q : RegisterRequest) : List (Option Error) :=
  s.entryFaults q ++ (s.uuidFaults r q ++ [s.clashFault r q])

variable {s : Scene} {r : Registry} {q : RegisterRequest}

theorem gives_iff {u : Uuid} : s.Gives r q u ↔ s.uuidOf? r q = some u := by
  rw [uuidOf?]
  constructor
  · rintro (⟨chosen, spells⟩ | none)
    · rw [chosen]
      exact Uuid.ofChars?_eq_some_iff.mpr spells
    · rw [none]
  · cases chosen : q.chosenUuid with
    | none =>
      rintro ⟨⟩
      exact .drawn chosen
    | some text =>
      intro read
      exact .chosen chosen (Uuid.ofChars?_eq_some_iff.mp read)

theorem entryFaults_eq_none_iff : firstFault (s.entryFaults q) = none ↔
    FitsAccount q.username ∧ q.password ≠ "" ∧
      s.service.config.minPasswordLength ≤ q.password.length := by
  simp [firstFault_eq_none_iff, entryFaults, usernameFaults, passwordFaults, FitsAccount, and_assoc]

theorem uuidFaults_eq_none_iff : firstFault (s.uuidFaults r q) = none ↔
    s.service.config.newPlayers.allow = true ∧
      (q.chosenUuid.isSome → s.service.config.newPlayers.allowChoosingUuid = true) ∧
      ∃ u, s.Gives r q u := by
  simp [firstFault_eq_none_iff, uuidFaults, policyFaults, gives_iff,
    Option.ne_none_iff_exists']

theorem clashFault_eq {u : Uuid} (gives : s.Gives r q u) : s.clashFault r q =
    faultIf (∃ x ∈ r.accounts.rows, Meets x.account q u)
      (.conflict "That username is taken.") := by
  rw [clashFault, gives_iff.mp gives, Option.bind_some]

/-- There is no fault exactly if nothing is missing. -/
theorem registerFaults_eq_none_iff :
    firstFault (s.registerFaults r q) = none ↔ ∃ u, s.Registers r q u := by
  rw [registerFaults, firstFault_append, firstFault_append, Option.or_eq_none_iff,
    Option.or_eq_none_iff, entryFaults_eq_none_iff, uuidFaults_eq_none_iff, firstFault_cons,
    firstFault_nil, Option.or_none]
  constructor
  · rintro ⟨⟨username, password⟩, ⟨allowed, choice, u, uuid⟩, free⟩
    rw [clashFault_eq uuid, faultIf_eq_none] at free
    refine ⟨u, ⟨username, password, allowed, choice, uuid⟩, ?_⟩
    simpa using free
  · rintro ⟨u, ⟨username, password, allowed, choice, uuid⟩, free⟩
    refine ⟨⟨username, password⟩, ⟨allowed, choice, u, uuid⟩, ?_⟩
    rw [clashFault_eq uuid, faultIf_eq_none]
    simpa using free

theorem checkUsername_eq (q : RegisterRequest) :
    Field.checkUsername q.username = stopAt (firstFault (usernameFaults q)) := by
  have bound : maxPlayerName = 16 := rfl
  rw [Field.checkUsername, bound, usernameFaults]
  by_cases blank : Text.trim q.username.toList = []
  · simp [firstFault_cons, faultIf, stopAt, blank]
  · by_cases long : 16 < q.username.length
    · simp [firstFault_cons, faultIf, stopAt, blank, long]
    · simp [firstFault_cons, faultIf, stopAt, blank, long]

section
variable (minLength : s.service.credentials.minLength = s.service.config.minPasswordLength)
include minLength

theorem checkPassword_of_given (q : RegisterRequest) :
    (if q.password = "" then .error (.validation "password" "password can't be blank")
      else s.checkPassword q.password : Result Unit) =
        stopAt (firstFault (s.passwordFaults q)) := by
  rw [checkPassword, Credentials.isValidPassword, minLength, passwordFaults]
  by_cases blank : q.password = ""
  · simp [firstFault_cons, faultIf, stopAt, blank]
  · by_cases short : q.password.length < s.service.config.minPasswordLength
    · simp [firstFault_cons, faultIf, stopAt, blank, short]
    · simp [firstFault_cons, faultIf, stopAt, blank, short, Nat.le_of_not_lt short]

theorem checkRegistration_eq (q : RegisterRequest) :
    s.checkRegistration q = stopAt (firstFault (s.entryFaults q)) := by
  rw [entryFaults, stopAt_firstFault_append, ← checkUsername_eq, ← checkPassword_of_given minLength,
    checkRegistration]
  refine congrArg (Field.checkUsername q.username >>= ·) (funext fun _ => ?_)
  by_cases blank : q.password = ""
  · rw [if_pos blank, if_pos blank]
    rfl
  · rw [if_neg blank, if_neg blank]

end

theorem checkRegisterNew_eq (config : s.service.policy.config = s.service.config)
    (q : RegisterRequest) : s.service.policy.checkRegisterNew q.chosenUuid.isSome =
      stopAt (firstFault (s.policyFaults q)) := by
  rw [Policy.checkRegisterNew, config, policyFaults]
  cases s.service.config.newPlayers.allow with
  | false => rfl
  | true =>
    cases s.service.config.newPlayers.allowChoosingUuid with
    | false => cases q.chosenUuid <;> rfl
    | true => cases q.chosenUuid <;> rfl

open Work

section
variable (config : s.service.policy.config = s.service.config) (new : q.existingPlayer = false)
include config new

theorem uuidFor_eq : s.uuidFor q = (do
    Work.ofResult (stopAt (firstFault (s.policyFaults q)))
    match q.chosenUuid with
    | some text => Work.ofResult (Field.readUuid "chosenUuid" text)
    | none => s.newUuid) := by
  rw [uuidFor, new, ← checkRegisterNew_eq config]
  rfl

theorem perform_uuidFor_of_fault {e : Error} (fault : firstFault (s.uuidFaults r q) = some e) :
    (s.uuidFor q).perform r = (.error e, r) := by
  rw [uuidFor_eq config new]
  rw [uuidFaults, firstFault_append] at fault
  cases policy : firstFault (s.policyFaults q) with
  | some e' =>
    rw [policy] at fault
    cases fault
    rfl
  | none =>
    rw [policy, firstFault_cons, uuidOf?] at fault
    cases chosen : q.chosenUuid with
    | none => simp [chosen, faultIf] at fault
    | some text =>
      cases read : Uuid.ofChars? (Text.trim text.toList) with
      | some u => simp [chosen, read, faultIf] at fault
      | none =>
        simp only [chosen, read, faultIf] at fault
        cases fault
        change (Field.readUuid "chosenUuid" text, r) = _
        rw [Field.readUuid, read]

/-- Where no fault has been found, at most one draw has been taken. -/
theorem perform_uuidFor_of_gives (passed : firstFault (s.uuidFaults r q) = none) {u : Uuid}
    (gives : s.Gives r q u) : ∃ i ≤ 1,
      (s.uuidFor q).perform r = (.ok u.toText, { r with draws := r.draws + i }) := by
  rw [uuidFaults, firstFault_append, Option.or_eq_none_iff] at passed
  rw [uuidFor_eq config new, passed.1]
  cases gives with
  | @chosen text _ chosen spells =>
    refine ⟨0, by omega, ?_⟩
    rw [chosen]
    change (Field.readUuid "chosenUuid" text, r) = _
    rw [Field.readUuid, Uuid.ofChars?_eq_some_iff.mpr spells]
    rfl
  | drawn none =>
    refine ⟨1, by omega, ?_⟩
    rw [none]
    rfl

end

namespace Supplied

variable (supplied : s.Supplied r)
include supplied

theorem salt (k : Nat) : 8 ≤ (s.random.salt k).size := by
  rw [RandomSource.salt, supplied.full]
  decide

theorem token_ne_empty (k : Nat) : s.random.token k ≠ "" := by
  have long : (s.random.token k).length = 64 := by
    rw [RandomSource.token, Hex.length_encode, supplied.full]
  intro empty
  rw [empty] at long
  exact absurd long (by decide)

/-- With a token of its own, an account clashes with another one over a name or a UUID only. -/
theorem clashes_iff {i : Nat} (early : i ≤ 1) (u : Uuid) {x : Row} (hx : x ∈ r.accounts.rows) :
    AccountTable.clashes (s.newAccount q.username q.password u.toText (r.draws + i)) x.account =
      true ↔ Meets x.account q u := by
  have token : x.account.session.token ≠ some (s.random.token (r.draws + i + 1)) :=
    supplied.unused (i + 1) (by omega) x hx
  simp [AccountTable.clashes, newAccount, Session.columns, Session.mint, Meets, token,
    or_comm, or_left_comm]

end Supplied

/-- Once the checks have passed and there is a UUID, all is up to the table. -/
theorem perform_register_of_uuid (checked : s.checkRegistration q = .ok ()) {text : String}
    {r₁ : Registry} (identified : (s.uuidFor q).perform r = (.ok text, r₁)) :
    (s.register q).perform r =
      (conflictAs "That username is taken."
        (s.createAccount q.username q.password text)).perform r₁ := by
  rw [register_eq, checked]
  exact perform_bind_ok identified _

section
variable (config : s.service.policy.config = s.service.config)
  (minLength : s.service.credentials.minLength = s.service.config.minPasswordLength)
  (new : q.existingPlayer = false)
include config minLength new

theorem perform_register_of_gives (entry : firstFault (s.entryFaults q) = none)
    (passed : firstFault (s.uuidFaults r q) = none) {u : Uuid} (gives : s.Gives r q u) :
    ∃ i ≤ 1, (s.register q).perform r =
      (conflictAs "That username is taken."
        (s.createAccount q.username q.password u.toText)).perform
          { r with draws := r.draws + i } := by
  obtain ⟨i, early, identified⟩ := perform_uuidFor_of_gives config new passed gives
  refine ⟨i, early, perform_register_of_uuid ?_ identified⟩
  rw [checkRegistration_eq minLength, entry]
  rfl

theorem perform_register_of_fault (supplied : s.Supplied r) {e : Error}
    (fault : firstFault (s.registerFaults r q) = some e) :
    ∃ draws, (s.register q).perform r = (.error e, { r with draws }) := by
  rw [registerFaults, firstFault_append, firstFault_append, firstFault_cons, firstFault_nil,
    Option.or_none] at fault
  cases entry : firstFault (s.entryFaults q) with
  | some e' =>
    obtain rfl : e' = e := by simpa [entry] using fault
    refine ⟨r.draws, ?_⟩
    rw [register_eq, checkRegistration_eq minLength, entry]
    rfl
  | none =>
    cases passed : firstFault (s.uuidFaults r q) with
    | some e' =>
      obtain rfl : e' = e := by simpa [entry, passed] using fault
      refine ⟨r.draws, ?_⟩
      rw [register_eq, checkRegistration_eq minLength, entry]
      exact perform_bind_error (perform_uuidFor_of_fault config new passed) _
    | none =>
      obtain ⟨-, -, u, gives⟩ := uuidFaults_eq_none_iff.mp passed
      obtain ⟨i, early, done⟩ := perform_register_of_gives config minLength new entry passed gives
      rw [entry, passed, clashFault_eq gives, faultIf] at fault
      split at fault
      · rename_i taken
        cases fault
        obtain ⟨x, hx, meets⟩ := taken
        have clashed := perform_createAccount_of_clash (r := { r with draws := r.draws + i })
          (supplied.salt _) ⟨x, hx, (supplied.clashes_iff early u hx).mpr meets⟩
        refine ⟨r.draws + i + 2, ?_⟩
        rw [done, perform_conflictAs, clashed]
        rfl
      · cases fault

/-- Nothing that is asked for is missing, so the account is made. -/
theorem perform_register_of_registers (supplied : s.Supplied r) (coherent : r.accounts.Coherent)
    {u : Uuid} (registers : s.Registers r q u) :
    ∃ draws made, (s.register q).perform r =
        (.ok made, { r with accounts := r.accounts.add made.account, draws }) ∧
      s.Registered r.accounts q u made ∧ made.session.token ≠ "" ∧
      (r.accounts.add made.account).Coherent := by
  have faultless := registerFaults_eq_none_iff.mpr ⟨u, registers⟩
  rw [registerFaults, firstFault_append, firstFault_append, Option.or_eq_none_iff,
    Option.or_eq_none_iff] at faultless
  obtain ⟨entry, passed, -⟩ := faultless
  obtain ⟨i, early, done⟩ :=
    perform_register_of_gives config minLength new entry passed registers.uuid
  have free : ∀ x ∈ r.accounts.rows, AccountTable.clashes
      (s.newAccount q.username q.password u.toText (r.draws + i)) x.account = false := by
    intro x hx
    rw [← Bool.not_eq_true, supplied.clashes_iff early u hx]
    exact registers.free x hx
  refine ⟨r.draws + i + 2, s.signedIn r.accounts q.username q.password u.toText (r.draws + i),
    ?_, ?_, supplied.token_ne_empty _, coherent.add free⟩
  · have created := perform_createAccount_of_free (r := { r with draws := r.draws + i })
      (supplied.salt _) free
    rw [done, perform_conflictAs, created]
    rfl
  · have hashed := Credentials.newPassword_of_long s.service.credentials q.password
      (supplied.salt (r.draws + i))
    exact ⟨rfl, rfl, rfl, rfl, Credentials.newPassword_verify hashed, rfl, rfl,
      fun kind => by cases kind <;> rfl, rfl, rfl, rfl⟩

theorem register_ok_iff (supplied : s.Supplied r) (coherent : r.accounts.Coherent) :
    (∃ made r', (s.register q).perform r = (.ok made, r')) ↔ ∃ u, s.Registers r q u := by
  constructor
  · rintro ⟨made, r', done⟩
    rw [← registerFaults_eq_none_iff]
    by_contra faulty
    obtain ⟨e, fault⟩ := Option.ne_none_iff_exists'.mp faulty
    obtain ⟨draws, failed⟩ := perform_register_of_fault config minLength new supplied fault
    rw [failed] at done
    cases done
  · rintro ⟨u, registers⟩
    obtain ⟨draws, made, done, -⟩ :=
      perform_register_of_registers config minLength new supplied coherent registers
    exact ⟨made, _, done⟩

end

end Scene

/-- A registration of a new player succeeds exactly if its username and its password fit, new
players are allowed, a UUID that is chosen is allowed and valid, and nobody has the name or the
UUID. Otherwise it fails with the first of its faults, and no account changes. If it succeeds, one
account is added, with what was asked for and with a session whose token is good at once. -/
theorem registration_decides {admits : Run → Scene → Operation → Prop} {x : Run}
    (reached : Run.Reached admits x) {s : Scene} {cost : Argon2.Cost} {key : SigningKey}
    (assembled : Service.assemble s.service.config cost key = .ok s.service)
    (supplied : s.Supplied x.registry) {q : RegisterRequest} (new : q.existingPlayer = false) :
    ((∃ made r, (s.register q).perform x.registry = (.ok made, r)) ↔
      ∃ u, s.Registers x.registry q u) ∧
    (∀ e, (∃ r, (s.register q).perform x.registry = (.error e, r)) ↔
      firstFault (s.registerFaults x.registry q) = some e) ∧
    (∀ e r, (s.register q).perform x.registry = (.error e, r) →
      r.accounts = x.registry.accounts) ∧
    ∀ made r, (s.register q).perform x.registry = (.ok made, r) →
      r.accounts = x.registry.accounts.add made.account ∧
      (∃ u, s.Registers x.registry q u ∧ s.Registered x.registry.accounts q u made) ∧
      ∀ enforce, r.accounts.resolve enforce s.now made.session.token = .ok (some made.account) := by
  obtain ⟨config, credentials⟩ := Service.parts_of_assemble assembled
  have minLength := congrArg Credentials.minLength credentials
  refine ⟨Scene.register_ok_iff config minLength new supplied reached.coherent, ?_⟩
  cases faults : firstFault (s.registerFaults x.registry q) with
  | some e =>
    obtain ⟨draws, done⟩ := Scene.perform_register_of_fault config minLength new supplied faults
    rw [done]
    refine ⟨by simp, ?_, by simp⟩
    rintro _ _ ⟨⟩
    rfl
  | none =>
    obtain ⟨u, registers⟩ := Scene.registerFaults_eq_none_iff.mp faults
    obtain ⟨draws, made, done, registered, given, coherent⟩ :=
      Scene.perform_register_of_registers config minLength new supplied reached.coherent registers
    rw [done]
    refine ⟨by simp, by simp, ?_⟩
    rintro _ _ ⟨⟩
    refine ⟨rfl, ⟨u, registers, registered⟩, fun enforce => ?_⟩
    refine (coherent.resolve_iff given enforce s.now made.account).mpr ⟨?_, ?_, fun _ => ?_⟩
    · exact List.mem_append_right _ List.mem_cons_self
    · rw [registered.session]
    · refine ⟨made.session.expiresAt, by rw [registered.session], ?_⟩
      rw [registered.expiresAt]
      change s.now.nanos < s.now.nanos + 24 * 60 * 60 * 1000000000
      omega

namespace Bob

/-- Players may choose a UUID. -/
def choosing : Config := { rateLimit := ⟨false, .ofNat 10⟩, newPlayers := ⟨true, true⟩ }

def scene : Scene :=
  .quiet { Service.plain with config := choosing, policy := ⟨choosing, none⟩ }

/-- The UUID is written in capital letters and without dashes. -/
def request : RegisterRequest :=
  ⟨"bob", "secret1", some "069A79F444E94726A5BEFCA90E38AAF5 ", false⟩

def uuid : Uuid := ⟨0x069a79f444e94726a5befca90e38aaf5#128⟩

end Bob

/-- Bob is registered next to Alice, with the UUID that he has chosen. -/
theorem bob_is_registered :
    ∃ made r, (Bob.scene.register Bob.request).perform Alice.registry = (.ok made, r) ∧
      r.accounts = Alice.registry.accounts.add made.account ∧
      made.account.uuid = "069a79f4-44e9-4726-a5be-fca90e38aaf5" ∧
      r.accounts.resolve true ⟨0⟩ made.session.token = .ok (some made.account) := by
  have reached : Run.Reached (fun _ _ _ => True) Alice.run := Alice.reached trivial
  have assembled : Service.assemble Bob.scene.service.config ⟨8, 1, 1⟩ Service.plain.key =
      .ok Bob.scene.service := rfl
  have supplied : Bob.scene.Supplied Alice.registry := by
    have tokens : ∀ i < 3, some (Scene.plain.random.token 2) ≠
        some (Scene.plain.random.token (3 + i)) := by
      decide +kernel
    refine ⟨fun k n => by simp [Bob.scene, Scene.quiet, ByteArray.size], ?_⟩
    intro i hi x hx
    obtain rfl : x = ⟨Alice.account, true⟩ := List.mem_singleton.mp hx
    exact tokens i hi
  have registers : Bob.scene.Registers Alice.registry Bob.request Bob.uuid := by
    refine ⟨⟨⟨by decide, by decide⟩, ⟨by decide, by decide⟩, rfl, fun _ => rfl,
      .chosen rfl (Uuid.ofChars?_eq_some_iff.mp (by decide))⟩, ?_⟩
    intro x hx
    obtain rfl : x = ⟨Alice.account, true⟩ := List.mem_singleton.mp hx
    decide +kernel
  have law := registration_decides reached assembled supplied (q := Bob.request) rfl
  obtain ⟨made, r, done⟩ := law.1.mpr ⟨Bob.uuid, registers⟩
  obtain ⟨rows, ⟨u, others, registered⟩, resolves⟩ := law.2.2.2 made r done
  refine ⟨made, r, done, rows, ?_, resolves true⟩
  have same : some u = some Bob.uuid :=
    (Scene.gives_iff.mp others.uuid).symm.trans (Scene.gives_iff.mp registers.uuid)
  rw [registered.uuid, Option.some.inj same]
  decide

end PlayerRegistry
