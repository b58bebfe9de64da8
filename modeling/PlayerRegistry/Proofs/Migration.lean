import PlayerRegistry.Proofs.NameBounds
import PlayerRegistry.Proofs.RecognizedSkins
import PlayerRegistry.Proofs.RemoteAnswers
import PlayerRegistry.Proofs.UuidIdentity

/-!
# Accounts that are brought along

Nobody adopts the UUID of another player: a registration with an account from a provider succeeds
only if the provider knows the name, and, where that is asked for, its player wears the challenge
skin. A registration that fails leaves everything that is stored as it is.
-/

namespace PlayerRegistry

/-- Faults of the player or of another server, and values that are in use: the registry itself has
not failed. -/
inductive Error.Expected : Error → Prop where
  | validation (field reason) : Expected (.validation field reason)
  | forbidden (text) : Expected (.forbidden text)
  | authentication (text) : Expected (.authentication text)
  | externalFetch (text) : Expected (.externalFetch text)
  | conflict (text) : Expected (.conflict text)

theorem Fetcher.Fault.expected {field : String} {e : Error} (h : Fault field e) : e.Expected := by
  cases h with
  | invalid reason => exact .validation _ _
  | remote text => exact .externalFetch _

namespace Scene

open Work

/-- The player of an id wears at the provider, in a file that can be fetched, the challenge skin
for the username. -/
def WearsChallenge (s : Scene) (m : Migration) (username id : String) : Prop :=
  ∃ profile value url u answer file, Provider.Wears s.web m.sessionUrl id profile value url ∧
    s.service.fetcher.Finds s.web url u answer file ∧
    Png.decode? file.data.toList = some (Challenge.picture s.service.key username)

/-- Accounts may be brought along; the provider answers the username with an id that spells the
UUID; and the player of that id wears the challenge skin, if that is required. -/
def Brings (s : Scene) (username : String) (u : Uuid) : Prop :=
  ∃ m answer profile, s.service.policy.migration = some m ∧
    Provider.Tells s.web m.accountUrl username answer profile ∧ u.Spells profile.id.toList ∧
    (m.requireSkinVerification = true → s.WearsChallenge m username profile.id)

/-- All that is asked of a player who brings an account along: a fitting name and password, the
UUID at the provider, and that neither name nor UUID is in use. -/
structure Migrates (s : Scene) (t : AccountTable) (q : RegisterRequest) (u : Uuid) : Prop where
  username : FitsAccount q.username
  password : q.password ≠ "" ∧ s.service.credentials.minLength ≤ q.password.length
  brings : s.Brings q.username u
  uuidFree : ∀ row ∈ t.rows, ¬row.account.Denotes u
  usernameFree : ∀ row ∈ t.rows, row.account.username ≠ q.username
  playerNameFree : ∀ row ∈ t.rows, row.account.profile.playerName ≠ q.username

variable {s : Scene} {r : Registry} {q : RegisterRequest} {username : String}

theorem wearsChallenge_iff {m : Migration} {id : String} : s.WearsChallenge m username id ↔
    ∃ url file, (Provider.skinUrl s.web m.sessionUrl id).result = .ok (some url) ∧
      (s.service.fetcher.fetch s.web "skin" url).result = .ok file ∧
      Challenge.accepts s.service.key username file = true := by
  simp only [WearsChallenge, Provider.skinUrl_eq_ok_iff, Fetcher.fetch_eq_ok_iff,
    Challenge.accepts, decide_eq_true_eq]
  constructor
  · rintro ⟨profile, value, url, u, answer, file, wears, finds, shows⟩
    exact ⟨url, file, ⟨profile, value, wears⟩, ⟨u, answer, finds⟩, shows⟩
  · rintro ⟨url, file, ⟨profile, value, wears⟩, ⟨u, answer, finds⟩, shows⟩
    exact ⟨profile, value, url, u, answer, file, wears, finds, shows⟩

theorem brings_iff {m : Migration} (migration : s.service.policy.migration = some m) {u : Uuid} :
    s.Brings username u ↔ ∃ profile,
      (Provider.lookupProfile s.web m.accountUrl username).result = .ok (some profile) ∧
      u.Spells profile.id.toList ∧
      (m.requireSkinVerification = true → s.WearsChallenge m username profile.id) := by
  simp only [Brings, migration, Option.some.injEq, Provider.lookupProfile_eq_ok_iff]
  constructor
  · rintro ⟨_, answer, profile, rfl, tells, spells, wears⟩
    exact ⟨profile, ⟨answer, tells⟩, spells, wears⟩
  · rintro ⟨profile, ⟨answer, tells⟩, spells, wears⟩
    exact ⟨m, answer, profile, rfl, tells, spells, wears⟩

theorem verifySkin_asks (s : Scene) (m : Migration) (username id : String) :
    ∃ result, Asks (s.verifySkin m username id) result ∧
      (result = .ok () ↔ s.WearsChallenge m username id) ∧
      ∀ e, result = .error e → e.Expected := by
  rw [wearsChallenge_iff, verifySkin]
  have asked := asks_call (Provider.skinUrl s.web m.sessionUrl id)
  cases told : (Provider.skinUrl s.web m.sessionUrl id).result with
  | error e =>
    rw [told] at asked
    refine ⟨_, asked.bind_error _, by simp, ?_⟩
    rintro _ ⟨⟩
    obtain ⟨text, rfl⟩ := Provider.skinUrl_eq_error told
    exact .externalFetch text
  | ok found =>
    rw [told] at asked
    cases found with
    | none =>
      refine ⟨_, asked.bind_ok (asks_throw skinNotVerified), by simp, ?_⟩
      rintro _ ⟨⟩
      exact .authentication _
    | some url =>
      have fetched := asks_call (s.service.fetcher.fetch s.web "skin" url)
      cases got : (s.service.fetcher.fetch s.web "skin" url).result with
      | error e =>
        rw [got] at fetched
        refine ⟨_, asked.bind_ok (fetched.bind_error _), by simp [got], ?_⟩
        rintro _ ⟨⟩
        exact (Fetcher.fetch_eq_error got).expected
      | ok file =>
        rw [got] at fetched
        refine ⟨_, asked.bind_ok (fetched.bind_ok (asks_require _ _)), ?_, ?_⟩
        · cases shows : Challenge.accepts s.service.key username file with
          | true => simp [got, shows]
          | false => simp [got, shows]
        · intro e failed
          split at failed
          · cases failed
          · cases failed
            exact .authentication _

/-- Work goes on only where the skin is worn, if that is required. -/
theorem verified_asks (s : Scene) (m : Migration) (username id : String) {k : Work String}
    {result : Result String} (ends : Asks k result)
    (expected : ∀ e, result = .error e → e.Expected) :
    ∃ result', Asks
        (if m.requireSkinVerification then s.verifySkin m username id >>= fun _ => k else k)
        result' ∧
      (∀ text, result' = .ok text ↔ result = .ok text ∧
        (m.requireSkinVerification = true → s.WearsChallenge m username id)) ∧
      ∀ e, result' = .error e → e.Expected := by
  cases m.requireSkinVerification with
  | false => exact ⟨result, ends, by simp, expected⟩
  | true =>
    obtain ⟨verified, verifies, wears_iff, refused⟩ := s.verifySkin_asks m username id
    cases verified with
    | error e =>
      have bare : ¬s.WearsChallenge m username id := wears_iff.not.mp (by simp)
      refine ⟨.error e, verifies.bind_error _, by simp [bare], ?_⟩
      rintro _ ⟨⟩
      exact refused e rfl
    | ok _ =>
      have wears : s.WearsChallenge m username id := wears_iff.mp rfl
      exact ⟨result, verifies.bind_ok ends, by simp [wears], expected⟩

/-- What the account API answers decides; the skin is looked at only if that is required. -/
theorem migratedUuid_asks (s : Scene) (username : String) :
    ∃ result, Asks (s.migratedUuid username) result ∧
      (∀ text, result = .ok text ↔ ∃ u, s.Brings username u ∧ text = u.toText) ∧
      ∀ e, result = .error e → e.Expected := by
  rw [migratedUuid]
  cases migration : s.service.policy.migration with
  | none =>
    refine ⟨_, asks_throw migrationDisabled, ?_, ?_⟩
    · simp [Brings, migration]
    · rintro _ ⟨⟩
      exact .forbidden _
  | some m =>
    have spells_iff : ∀ {u : Uuid} {id : String}, u.Spells id.toList ↔ Uuid.parse? id = some u :=
      Uuid.ofChars?_eq_some_iff.symm
    simp only [brings_iff migration, spells_iff]
    have asked := asks_call (Provider.lookupProfile s.web m.accountUrl username)
    cases told : (Provider.lookupProfile s.web m.accountUrl username).result with
    | error e =>
      rw [told] at asked
      refine ⟨_, asked.bind_error _, by simp, ?_⟩
      rintro _ ⟨⟩
      obtain ⟨text, rfl⟩ := Provider.lookupProfile_eq_error told
      exact .externalFetch text
    | ok found =>
      rw [told] at asked
      cases found with
      | none =>
        refine ⟨_, asked.bind_ok (asks_throw _), by simp, ?_⟩
        rintro _ ⟨⟩
        exact .authentication _
      | some profile =>
        cases read : Uuid.parse? profile.id with
        | none =>
          have ended := asks_throw (α := String)
            (.externalFetch (m.nickname ++ " returned an invalid UUID"))
          obtain ⟨result, asks, ok_iff, expected⟩ := s.verified_asks m username profile.id ended (by
            rintro _ ⟨⟩
            exact .externalFetch _)
          refine ⟨result, asked.bind_ok (by simpa only [read] using asks), ?_, expected⟩
          simp [ok_iff, read]
        | some u =>
          have ended := asks_pure u.toText
          obtain ⟨result, asks, ok_iff, expected⟩ := s.verified_asks m username profile.id ended (by
            rintro _ ⟨⟩)
          refine ⟨result, asked.bind_ok (by simpa only [read] using asks), ?_, expected⟩
          intro text
          rw [ok_iff]
          constructor
          · rintro ⟨⟨⟩, wears⟩
            exact ⟨u, ⟨profile, rfl, read, wears⟩, rfl⟩
          · rintro ⟨u', ⟨_, ⟨⟩, read', wears⟩, rfl⟩
            obtain rfl : u = u' := Option.some.inj (read.symm.trans read')
            exact ⟨rfl, wears⟩

/-- With an account that is brought along, the checks come first, then the other servers, and the
account table last. -/
theorem perform_register_brought (existing : q.existingPlayer = true) {made : SignedIn}
    {r' : Registry} (h : (s.register q).perform r = (.ok made, r')) :
    s.checkRegistration q = .ok () ∧ ∃ u sent, s.Brings q.username u ∧
      (s.createAccount q.username q.password u.toText).perform { r with sent } =
        (.ok made, r') := by
  obtain ⟨checked, text, r₁, identified, created⟩ := perform_register_ok h
  obtain ⟨result, asks, ok_iff, -⟩ := s.migratedUuid_asks q.username
  obtain ⟨sent, migrated⟩ := asks r
  rw [uuidFor, if_pos existing, migrated, Prod.mk.injEq] at identified
  obtain ⟨rfl, rfl⟩ := identified
  obtain ⟨u, brings, rfl⟩ := (ok_iff text).mp rfl
  exact ⟨checked, u, sent, brings, created⟩

theorem perform_register_brought_error (existing : q.existingPlayer = true) {e : Error}
    {r' : Registry} (h : (s.register q).perform r = (.error e, r')) :
    (∃ draws sent, r' = { r with draws, sent }) ∧
      (8 ≤ (s.random.salt r.draws).size → e.Expected) := by
  obtain ⟨result, asks, -, expected⟩ := s.migratedUuid_asks q.username
  obtain ⟨sent, migrated⟩ := asks r
  have identifies : (s.uuidFor q).perform r = (result, { r with sent }) := by
    rw [uuidFor, if_pos existing, migrated]
  rcases perform_register_error h with
    ⟨failed, rfl⟩ | failed | ⟨text, r₁, e', identified, failed, rfl⟩
  · obtain ⟨field, reason, rfl⟩ := checkRegistration_eq_error failed
    exact ⟨⟨_, _, rfl⟩, fun _ => .validation _ _⟩
  · rw [identifies, Prod.mk.injEq] at failed
    obtain ⟨failed, rfl⟩ := failed
    exact ⟨⟨_, _, rfl⟩, fun _ => expected e failed⟩
  · rw [identifies, Prod.mk.injEq] at identified
    obtain ⟨-, rfl⟩ := identified
    obtain ⟨⟨draws, rfl⟩, taken⟩ := perform_createAccount_error failed
    refine ⟨⟨_, _, rfl⟩, ?_⟩
    intro salt
    obtain rfl := taken salt
    exact .conflict _

/-- What is asked of the player is enough. -/
theorem Migrates.perform_register {u : Uuid} (migrates : s.Migrates r.accounts q u)
    (existing : q.existingPlayer = true) (salt : 8 ≤ (s.random.salt r.draws).size)
    (token : ∀ x ∈ r.accounts.rows,
      x.account.session.token ≠ some (s.random.token (r.draws + 1))) :
    ∃ r', (s.register q).perform r =
      (.ok (s.signedIn r.accounts q.username q.password u.toText r.draws), r') := by
  have checked : s.checkRegistration q = .ok () := checkRegistration_eq_ok_iff.mpr
    ⟨(checkUsername_iff _).mpr migrates.username, migrates.password⟩
  obtain ⟨result, asks, ok_iff, -⟩ := s.migratedUuid_asks q.username
  obtain rfl := (ok_iff u.toText).mpr ⟨u, migrates.brings, rfl⟩
  obtain ⟨sent, migrated⟩ := asks r
  have identified : (s.uuidFor q).perform r = (.ok u.toText, { r with sent }) := by
    rw [uuidFor, if_pos existing, migrated]
  have free : ∀ x ∈ r.accounts.rows, AccountTable.clashes
      (s.newAccount q.username q.password u.toText r.draws) x.account = false := by
    intro x hx
    have uuid : x.account.uuid ≠ u.toText :=
      fun text => migrates.uuidFree x hx ((Account.denotes_iff text).mpr rfl)
    simp [AccountTable.clashes, newAccount, Session.columns, Session.mint, uuid,
      migrates.usernameFree x hx, migrates.playerNameFree x hx, token x hx]
  have created := perform_createAccount_of_free (r := { r with sent }) salt free
  rw [register_eq, checked]
  exact ⟨_, (perform_bind_ok identified _).trans (perform_conflictAs_eq_ok.mpr created)⟩

end Scene

namespace Run

variable {admits : Run → Scene → Operation → Prop}

/-- Who registers with an account from a provider has the UUID that the provider gives for the
name, and no account had it, or the name, before. A registration that fails, whatever the provider
answers, changes nothing that is stored. With draws that can be used it fails for a lack in what is
asked of the player, and for nothing else. -/
theorem migration_sound {x : Run} (reached : Reached admits x) (s : Scene) {q : RegisterRequest}
    (existing : q.existingPlayer = true) :
    let t := x.registry.accounts
    (∀ made r, (s.register q).perform x.registry = (.ok made, r) →
      ∃ u, s.Migrates t q u ∧ Uuid.IsCanonical made.account.uuid ∧ made.account.Denotes u ∧
        r.accounts = ⟨t.rows ++ [⟨made.account, true⟩], t.lastId + 1⟩ ∧
        r.textures = x.registry.textures) ∧
    (∀ e r, (s.register q).perform x.registry = (.error e, r) →
      r.accounts = t ∧ r.textures = x.registry.textures ∧
      (8 ≤ (s.random.salt x.registry.draws).size → e.Expected)) ∧
    ∀ u, s.Migrates t q u → 8 ≤ (s.random.salt x.registry.draws).size →
      (∀ row ∈ t.rows,
        row.account.session.token ≠ some (s.random.token (x.registry.draws + 1))) →
      ∃ made r, (s.register q).perform x.registry = (.ok made, r) := by
  refine ⟨?_, ?_, ?_⟩
  · intro made r done
    obtain ⟨checked, u, sent, brings, created⟩ := Scene.perform_register_brought existing done
    obtain ⟨-, free, rfl, rfl⟩ := Scene.perform_createAccount_ok created
    obtain ⟨named, password⟩ := Scene.checkRegistration_eq_ok_iff.mp checked
    have differs : ∀ row ∈ x.registry.accounts.rows, (row.account.uuid ≠ u.toText ∧
        row.account.username ≠ q.username) ∧ row.account.profile.playerName ≠ q.username := by
      intro row hrow
      have clashless := free row hrow
      simp only [AccountTable.clashes, Scene.newAccount, Bool.or_eq_false_iff] at clashless
      exact clashless.1.imp (.imp of_decide_eq_false of_decide_eq_false) of_decide_eq_false
    have uuidFree : ∀ row ∈ x.registry.accounts.rows, ¬row.account.Denotes u := by
      intro row hrow denotes
      obtain ⟨v, text⟩ := reached.canonical row hrow
      obtain rfl := (Account.denotes_iff text).mp denotes
      exact (differs row hrow).1.1 text
    have migrates : s.Migrates x.registry.accounts q u :=
      ⟨(checkUsername_iff _).mp named, password, brings, uuidFree,
        fun row hrow => (differs row hrow).1.2, fun row hrow => (differs row hrow).2⟩
    exact ⟨u, migrates, u.isCanonical_toText, (Account.denotes_iff rfl).mpr rfl, rfl, rfl⟩
  · intro e r failed
    obtain ⟨⟨draws, sent, rfl⟩, expected⟩ := Scene.perform_register_brought_error existing failed
    exact ⟨rfl, rfl, expected⟩
  · intro u migrates salt token
    obtain ⟨r, done⟩ := migrates.perform_register existing salt token
    exact ⟨_, r, done⟩

namespace Notch

def id : String := "069a79f444e94726a5befca90e38aaf5"

def request : RegisterRequest := ⟨"Notch", "secret1", none, true⟩

/-- An answer that comes as a whole. -/
def answer (body : ByteArray) : Web.Answer := ⟨200, none, [body], true, none⟩

/-- What the account API tells of the player. -/
def profile : ByteArray :=
  "\x7b\"id\":\"069a79f444e94726a5befca90e38aaf5\",\"name\":\"Notch\"\x7d".toUTF8

/-- What the session API tells of the player: the skin is the one at the address below. -/
def session : ByteArray :=
  ("\x7b\"properties\":[\x7b\"name\":\"textures\",\"value\":\"" ++
    "eyJ0ZXh0dXJlcyI6eyJTS0lOIjp7InVybCI6Imh0dHA6Ly9bMjYwMDo6MV0vc2tpbiJ9fX0=" ++
    "\"\x7d]\x7d").toUTF8

def skinAddress : Url where
  secure := false
  username := []
  password := []
  host := .ip (.v6 (.ofPieces [0x2600, 0, 0, 0, 0, 0, 0, 1]))
  port := none
  path := ["skin".toList]
  query := none
  fragment := none

/-- A provider that knows a single player, and a server that has a skin. -/
def web (skin : ByteArray) : Web where
  answer? u :=
    if u = skinAddress then some (answer skin)
    else if u.path.head? = some "users".toList then some (answer profile)
    else if u.path.head? = some "session".toList then some (answer session)
    else none
  addresses? _ := none

/-- The player of the provider wears the challenge for the name, as is asked of players who bring
their account along. -/
def scene : Scene where
  service :=
    let config : Config :=
      { existingPlayers := { sessionUrl := "http://[2600::2]", accountUrl := "http://[2600::3]" } }
    { Service.plain with config, policy := ⟨config, none⟩ }
  web := web (Challenge.skin Service.plain.key "Notch")
  random := Scene.plain.random
  now := ⟨0⟩
  refuses _ _ := false

def migration : Migration :=
  ⟨"Mojang", "http://[2600::2]", "http://[2600::3]",
    "https://www.minecraft.net/msaprofile/mygames/editskin", true⟩

theorem policy_migration : scene.service.policy.migration = some migration := by decide

theorem finds_skin : scene.service.fetcher.Finds scene.web "http://[2600::1]/skin" skinAddress
    (answer (Challenge.skin Service.plain.key "Notch"))
    (Challenge.skin Service.plain.key "Notch") where
  url := by decide +kernel
  host _ := ⟨_, rfl, by decide⟩
  answer := by
    have same : skinAddress.target = skinAddress := rfl
    have answered : scene.web.answer? skinAddress.target =
        some (answer (Challenge.skin Service.plain.key "Notch")) := by
      rw [scene, web]
      dsimp only
      rw [if_pos same]
    rw [Web.send_of_answer (by decide) answered rfl]
  success := by decide
  announced := nofun
  body := congrArg some ByteArray.empty_append
  size := Nat.le_trans (Challenge.size_skin_le _ _) (by decide)

theorem wears_challenge : scene.WearsChallenge migration "Notch" id := by
  have worn : (Provider.skinUrl scene.web "http://[2600::2]" id).result =
      .ok (some "http://[2600::1]/skin") := ok_of_toOption (by decide +kernel)
  obtain ⟨told, value, wears⟩ := Provider.skinUrl_eq_ok_iff.mp worn
  exact ⟨told, value, _, _, _, _, wears, finds_skin, Challenge.decode?_skin _ _⟩

theorem brings : scene.Brings "Notch" ⟨0x069a79f444e94726a5befca90e38aaf5#128⟩ := by
  have known : (Provider.lookupProfile scene.web "http://[2600::3]" "Notch").result =
      .ok (some ⟨id, "Notch"⟩) := ok_of_toOption (by decide +kernel)
  exact (Scene.brings_iff policy_migration).mpr
    ⟨_, known, Uuid.ofChars?_eq_some_iff.mp (by decide), fun _ => wears_challenge⟩

/-- The player is brought along to where Alice is, with the UUID that the provider gives. -/
theorem wearer_is_brought_along :
    scene.service.policy.migration = some migration ∧ migration.requireSkinVerification = true ∧
    scene.WearsChallenge migration "Notch" id ∧
    ∃ made r, (scene.register request).perform Alice.registry = (.ok made, r) ∧
      made.account.uuid = "069a79f4-44e9-4726-a5be-fca90e38aaf5" ∧
      Uuid.IsCanonical made.account.uuid ∧
      r.accounts.rows = [⟨Alice.account, true⟩, ⟨made.account, true⟩] := by
  have reached : Reached (fun _ _ _ => True) Alice.run := Alice.reached trivial
  have law := migration_sound reached scene (q := request) rfl
  have alone : ∀ row ∈ Alice.registry.accounts.rows, row = ⟨Alice.account, true⟩ :=
    fun _ => List.mem_singleton.mp
  have migrates : scene.Migrates Alice.registry.accounts request
      ⟨0x069a79f444e94726a5befca90e38aaf5#128⟩ := by
    refine ⟨⟨by decide, by decide⟩, by decide, brings, ?_, ?_, ?_⟩
    all_goals
      intro row hrow
      rw [alone row hrow]
    · exact (Account.denotes_iff (u := Scene.plain.random.uuid 0) rfl).not.mpr (by decide)
    · decide
    · decide
  have token : ∀ row ∈ Alice.registry.accounts.rows, row.account.session.token ≠
      some (scene.random.token (Alice.registry.draws + 1)) := by
    intro row hrow
    rw [alone row hrow]
    decide +kernel
  obtain ⟨r, done⟩ := migrates.perform_register rfl (by decide) token
  obtain ⟨_, -, canonical, -, stored, -⟩ := law.1 _ r done
  exact ⟨policy_migration, rfl, wears_challenge, _, r, done, by decide, canonical,
    congrArg (·.rows) stored⟩

end Notch

end Run

end PlayerRegistry
