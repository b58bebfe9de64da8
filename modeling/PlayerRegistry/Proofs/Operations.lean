import PlayerRegistry.Account.Delete
import PlayerRegistry.Proofs.AccountTable
import PlayerRegistry.Proofs.ProfileChanges

/-!
# What operations do to the account table

Whatever an operation of the registry does, and whatever happens in between, each of its steps
either leaves the account table alone or carries out one statement on it.
-/

namespace PlayerRegistry

open AccountTable (Statement)

/-- The operations that change accounts. -/
inductive Operation where
  | register (q : RegisterRequest)
  | login (q : LoginRequest)
  /-- Begins a session for an account. -/
  | issue (a : Account)
  /-- Ends the session of an account. -/
  | logout (a : Account)
  | update (a : Account) (q : UpdateRequest)
  | delete (a : Account)
  | setSession (id : Int) (token : String) (expiresAt : Instant)
  | clearSession (id : Int)

def Operation.work (s : Scene) : Operation → Work Unit
  | register q => do let _ ← s.register q
  | login q => do let _ ← s.login q
  | issue a => do let _ ← s.beginSession a
  | logout a => do let _ ← Scene.logout a
  | update a q => do let _ ← s.updateProfile a q
  | delete a => s.deleteAccount a
  | setSession id token expiresAt => Work.onAccounts (·.setSession id token expiresAt)
  | clearSession id => Work.onAccounts fun t => (.ok (), t.clearSession id)

namespace Work

/-- The step does to the account table what a statement does. -/
def Performs (stmt : Statement) (update : Registry → Registry) : Prop :=
  ∀ r, (update r).accounts = (stmt.run r.accounts).2

/-- The step leaves the account table alone or carries out a statement of `S`. -/
def Statements (S : Statement → Prop) (update : Registry → Registry) : Prop :=
  Quiet update ∨ ∃ stmt, S stmt ∧ Performs stmt update

theorem Statements.mono {S S' : Statement → Prop} {update : Registry → Registry}
    (h : Statements S update) (more : ∀ stmt, S stmt → S' stmt) : Statements S' update := by
  rcases h with quiet | ⟨stmt, hs, performs⟩
  · exact .inl quiet
  · exact .inr ⟨stmt, more stmt hs, performs⟩

theorem Statements.quiet {S : Statement → Prop} : ∀ u, Quiet u → Statements S u :=
  fun _ h => .inl h

theorem within_statement {α : Type} {S : Statement → Prop} (stmt : Statement) (hs : S stmt)
    {f : AccountTable → Result α × AccountTable} (h : ∀ t, (f t).2 = (stmt.run t).2) :
    Within (Statements S) (fun _ => True) (onAccounts f) :=
  within_onAccounts (.inr ⟨stmt, hs, fun r => h r.accounts⟩) fun _ _ _ => trivial

theorem within_create {S : Statement → Prop} {new : NewAccount} (hs : S (.create new)) :
    Within (Statements S) (fun a => a.uuid = new.uuid) (onAccounts (·.create new)) := by
  apply within_onAccounts
  · exact .inr ⟨.create new, hs, fun _ => rfl⟩
  · intro t a created
    rcases AccountTable.create_cases t new with ⟨-, he⟩ | ⟨-, he⟩
    · simp [he] at created
    · rw [he] at created
      rw [← Except.ok.inj created]
      rfl

theorem Within.done {α : Type} {P : (Registry → Registry) → Prop} {Q : α → Prop} {w : Work α}
    (h : Within P Q w) : Within P (fun _ => True) w :=
  h.mono (fun _ h => h) fun _ _ => trivial

end Work

namespace Scene

open Work

variable {S : Statement → Prop}

/-- What is created for a name and a password, with the text of a UUID. -/
structure Makes (s : Scene) (name given text : String) (new : NewAccount) : Prop where
  uuid : new.uuid = text
  username : new.username = name
  playerName : new.playerName = name
  password : ∃ k, s.service.credentials.newPassword given (s.random.salt k) = .ok new.password

/-- The UUID that a registration is for: the chosen one, a new one, or that of the player at the
provider. -/
inductive UuidFor (s : Scene) (q : RegisterRequest) : Uuid → Prop where
  | chosen {text u} : q.existingPlayer = false → q.chosenUuid = some text →
      Uuid.ofChars? (Text.trim text.toList) = some u → UuidFor s q u
  | drawn (k : Nat) : q.existingPlayer = false → q.chosenUuid = none →
      UuidFor s q (s.random.uuid k)
  | brought {m profile u} : q.existingPlayer = true → s.service.policy.migration = some m →
      (Provider.lookupProfile s.web m.accountUrl q.username).result = .ok (some profile) →
      Uuid.parse? profile.id = some u → UuidFor s q u

theorem within_newPassword (s : Scene) (password : String) :
    Within (Statements S)
      (fun kept => ∃ k, s.service.credentials.newPassword password (s.random.salt k) = .ok kept)
      (s.newPassword password) :=
  (within_draw Statements.quiet).bind fun k _ => within_ofResult fun _ h => ⟨k, h⟩

theorem within_newSession (s : Scene) :
    Within (Statements S) (fun _ => True) s.newSession :=
  (within_draw Statements.quiet).bind fun _ _ => within_pure trivial

theorem within_newUuid (s : Scene) :
    Within (Statements S) (fun text => ∃ k, text = (s.random.uuid k).toText) s.newUuid :=
  (within_draw Statements.quiet).bind fun k _ => within_pure ⟨k, rfl⟩

theorem within_createAccount (s : Scene) (username password uuid : String)
    (create : ∀ new, s.Makes username password uuid new → S (.create new)) :
    Within (Statements S) (fun made => made.account.uuid = uuid)
      (s.createAccount username password uuid) := by
  refine (within_newPassword s password).bind ?_
  intro kept hashed
  refine (within_newSession s).bind ?_
  intro session _
  refine (within_create ?_).bind ?_
  · exact create _ ⟨rfl, rfl, rfl, hashed⟩
  · intro account same
    exact within_pure same

theorem within_verifySkin (s : Scene) (m : Migration) (username id : String) :
    Within (Statements S) (fun _ => True) (s.verifySkin m username id) := by
  refine (within_call Statements.quiet _).bind ?_
  intro url _
  cases url with
  | none => exact within_throw _
  | some url =>
    refine (within_call Statements.quiet _).bind ?_
    intro file _
    exact within_require.done

theorem within_migratedUuid (s : Scene) {q : RegisterRequest} (existing : q.existingPlayer = true) :
    Within (Statements S) (fun text => ∃ u, s.UuidFor q u ∧ text = u.toText)
      (s.migratedUuid q.username) := by
  rw [migratedUuid]
  cases migration : s.service.policy.migration with
  | none => exact within_throw _
  | some m =>
    refine (within_call Statements.quiet _).bind ?_
    intro found looked
    cases found with
    | none => exact within_throw _
    | some profile =>
      have verified := within_verifySkin (S := S) s m q.username profile.id
      dsimp only
      cases read : Uuid.parse? profile.id with
      | none =>
        split
        · exact verified.bind fun _ _ => within_throw _
        · exact within_throw _
      | some u =>
        have identified : s.UuidFor q u := .brought existing migration looked read
        split
        · exact verified.bind fun _ _ => within_pure ⟨u, identified, rfl⟩
        · exact within_pure ⟨u, identified, rfl⟩

theorem within_chosenOrNewUuid (s : Scene) {q : RegisterRequest}
    (new : q.existingPlayer = false) :
    Within (Statements S) (fun text => ∃ u, s.UuidFor q u ∧ text = u.toText)
      (s.chosenOrNewUuid q.chosenUuid) := by
  refine (within_ofResult (Q := fun _ => True) fun _ _ => trivial).bind ?_
  intro _ _
  cases chosen : q.chosenUuid with
  | none =>
    refine (within_newUuid s).mono (fun _ h => h) ?_
    rintro text ⟨k, rfl⟩
    exact ⟨_, .drawn k new chosen, rfl⟩
  | some given =>
    apply within_ofResult
    intro text read
    rw [Field.readUuid] at read
    cases h : Uuid.ofChars? (Text.trim given.toList) with
    | none => simp [h] at read
    | some u =>
      refine ⟨u, .chosen new chosen h, ?_⟩
      simpa [h] using read.symm

/-- The text of the UUID that a registration is for. -/
def uuidFor (s : Scene) (q : RegisterRequest) : Work String :=
  if q.existingPlayer then s.migratedUuid q.username else s.chosenOrNewUuid q.chosenUuid

theorem register_eq (s : Scene) (q : RegisterRequest) :
    s.register q = Work.ofResult (s.checkRegistration q) >>= fun _ => s.uuidFor q >>= fun uuid =>
      Work.conflictAs "That username is taken." (s.createAccount q.username q.password uuid) := by
  refine congrArg (Work.ofResult (s.checkRegistration q) >>= ·) (funext fun _ => ?_)
  rw [uuidFor]
  split
  · rfl
  · rfl

theorem within_uuidFor (s : Scene) (q : RegisterRequest) :
    Within (Statements S) (fun text => ∃ u, s.UuidFor q u ∧ text = u.toText) (s.uuidFor q) := by
  rw [uuidFor]
  split
  · rename_i existing
    exact within_migratedUuid s existing
  · rename_i new
    exact within_chosenOrNewUuid s (by simpa using new)

/-- A registration creates nothing but an account with the UUID that it is for, whose username has
been checked. -/
theorem within_register (s : Scene) (q : RegisterRequest)
    (create : ∀ new u, Field.checkUsername q.username = .ok () → s.UuidFor q u →
      s.Makes q.username q.password u.toText new → S (.create new)) :
    Within (Statements S) (fun made => ∃ u, s.UuidFor q u ∧ made.account.uuid = u.toText)
      (s.register q) := by
  have checks : Within (Statements S) (fun _ => Field.checkUsername q.username = .ok ())
      (Work.ofResult (s.checkRegistration q)) := by
    apply within_ofResult
    intro _ h
    obtain ⟨_, checked, -⟩ := ok_of_bind h
    exact checked
  rw [register_eq]
  apply checks.bind
  intro _ checked
  apply (within_uuidFor s q).bind
  rintro _ ⟨u, identified, rfl⟩
  have makes := within_createAccount s q.username q.password u.toText
    fun new makes => create new u checked identified makes
  exact (makes.mono (fun _ h => h) fun made same => ⟨u, identified, same⟩).conflictAs _

theorem within_beginSession (s : Scene) (a : Account)
    (set : ∀ token expiresAt, S (.setSession a.id token expiresAt)) :
    Within (Statements S) (fun _ => True) (s.beginSession a) := by
  refine (within_newSession s).bind ?_
  intro session _
  have issued : ∀ t : AccountTable, (t.issue a session).2 =
      ((Statement.setSession a.id session.token session.expiresAt).run t).2 := by
    intro t
    simp only [AccountTable.issue, Statement.run]
    rcases AccountTable.setSession_cases t a.id session.token session.expiresAt with
      ⟨-, he⟩ | ⟨-, -, he⟩ | ⟨-, -, he⟩ <;> rw [he]
  refine (within_statement _ (set session.token session.expiresAt) issued).bind ?_
  intro account _
  exact within_pure trivial

theorem within_loginTo (s : Scene) (a : Account) (password : String)
    (set : ∀ token expiresAt, S (.setSession a.id token expiresAt)) :
    Within (Statements S) (fun _ => True) (s.loginTo a password) := by
  refine (within_ofResult (Q := fun _ => True) fun _ _ => trivial).bind ?_
  intro valid _
  apply within_require.bind
  intro _ _
  exact within_beginSession s a set

theorem within_loginAnonymously (s : Scene) (q : LoginRequest)
    (create : ∀ new (u : Uuid), s.Makes q.username q.password u.toText new → S (.create new))
    (set : ∀ id token expiresAt, S (.setSession id token expiresAt)) :
    Within (Statements S) (fun _ => True) (s.loginAnonymously q) := by
  refine (within_newUuid s).bind ?_
  rintro _ ⟨k, rfl⟩
  apply Within.tryCatch (within_createAccount s _ _ _ fun new => create new _).done
  intro e
  cases e with
  | conflict text =>
    refine (within_seeAccounts Statements.quiet (Q := fun _ => True) fun _ _ _ => trivial).bind ?_
    intro found _
    cases found with
    | none => exact within_throw _
    | some a => exact within_loginTo s a _ (set a.id)
  | _ => exact within_throw _

/-- A login creates an account for an anonymous player only. -/
theorem within_login (s : Scene) (q : LoginRequest)
    (create : q.username ≠ "" → s.isAnonymous q = true → ∀ new (u : Uuid),
      s.Makes q.username q.password u.toText new → S (.create new))
    (set : ∀ id token expiresAt, S (.setSession id token expiresAt)) :
    Within (Statements S) (fun _ => True) (s.login q) := by
  rw [login]
  dsimp only
  split
  · exact (within_throw (Q := fun _ => False) _).bind fun _ h => h.elim
  · rename_i given
    refine (within_seeAccounts Statements.quiet (Q := fun _ => True) fun _ _ _ => trivial).bind ?_
    intro found _
    cases found with
    | some a => exact within_loginTo s a _ (set a.id)
    | none =>
      dsimp only
      split
      · rename_i anonymous
        exact within_loginAnonymously s q (create (fun h => given (.inl h)) anonymous) set
      · exact within_throw _

theorem within_logout (a : Account) (clear : S (.clearSession a.id)) :
    Within (Statements S) (fun _ => True) (logout a) :=
  within_statement (.clearSession a.id) clear fun _ => rfl

theorem within_updateProfile (s : Scene) (a : Account) (q : UpdateRequest)
    (save : ∀ b, s.Updates a q b → S (.save b)) :
    Within (Statements S) (fun _ => True) (s.updateProfile a q) := by
  apply (s.until_updateProfile a q).within Statements.quiet
  intro f ends
  cases ends with
  | failed e => exact within_throw e
  | @save b updates =>
    rw [run_save]
    exact ⟨.inr ⟨.save b, save b updates, fun _ => rfl⟩, fun _ _ _ => trivial⟩

theorem within_both {first second : Work Unit}
    (h : Within (Statements S) (fun _ => True) first)
    (h' : Within (Statements S) (fun _ => True) second) :
    Within (Statements S) (fun _ => True) (both first second) := by
  apply Flow.Within.bind h
  intro _ _
  apply Flow.Within.bind h'
  intro _ _ _ _
  trivial

theorem within_discardIf (s : Scene) (kind : Texture.Kind) (hash : Option String) :
    Within (Statements S) (fun _ => True) (s.discardIf kind hash) := by
  cases hash with
  | none => exact within_pure trivial
  | some hash =>
    rw [discardIf, Texture.discard]
    exact within_onTextures Statements.quiet s .delete kind

theorem within_deleteAccount (s : Scene) (a : Account) (clear : S (.clearSession a.id))
    (delete : S (.delete a.id)) :
    Within (Statements S) (fun _ => True) (s.deleteAccount a) := by
  refine (within_logout a clear).bind ?_
  intro _ _
  refine (within_statement (.delete a.id) delete fun _ => rfl).bind ?_
  intro _ _
  exact within_both (within_discardIf s _ _) (within_discardIf s _ _)

end Scene

/-- The statements that an operation may carry out. -/
def Operation.Issues (s : Scene) : Operation → Statement → Prop
  | register q, .create new =>
    Field.checkUsername q.username = .ok () ∧
      ∃ u, s.UuidFor q u ∧ s.Makes q.username q.password u.toText new
  | login q, .create new =>
    q.username ≠ "" ∧ s.isAnonymous q = true ∧
      ∃ u : Uuid, s.Makes q.username q.password u.toText new
  | login _, .setSession _ _ _ => True
  | issue a, .setSession id _ _ => id = a.id
  | logout a, .clearSession id => id = a.id
  | update a q, .save b => s.Updates a q b
  | delete a, .clearSession id => id = a.id
  | delete a, .delete id => id = a.id
  | setSession id token expiresAt, stmt => stmt = .setSession id token expiresAt
  | clearSession id, stmt => stmt = .clearSession id
  | _, _ => False

/-- Every step of an operation is quiet or one of its statements. -/
theorem Operation.within_work (s : Scene) (op : Operation) :
    Work.Within (Work.Statements (op.Issues s)) (fun _ => True) (op.work s) := by
  have ended : ∀ {α : Type} {w : Work α} {S : Statement → Prop},
      Work.Within (Work.Statements S) (fun _ => True) w →
      Work.Within (Work.Statements S) (fun _ => True) (do let _ ← w) := by
    intro α w S h
    exact h.bind fun _ _ => Work.within_pure trivial
  cases op with
  | register q =>
    refine ended (s.within_register q ?_).done
    intro new u checked identified makes
    exact ⟨checked, u, identified, makes⟩
  | login q =>
    refine ended (s.within_login q ?_ fun _ _ _ => trivial)
    intro given anonymous new u makes
    exact ⟨given, anonymous, u, makes⟩
  | issue a => exact ended (s.within_beginSession a fun _ _ => rfl)
  | logout a => exact ended (Scene.within_logout a rfl)
  | update a q => exact ended (s.within_updateProfile a q fun b updates => updates)
  | delete a => exact s.within_deleteAccount a rfl rfl
  | setSession id token expiresAt =>
    have own : (setSession id token expiresAt).Issues s (.setSession id token expiresAt) := rfl
    exact Work.within_statement _ own fun _ => rfl
  | clearSession id =>
    have own : (clearSession id).Issues s (.clearSession id) := rfl
    exact Work.within_statement _ own fun _ => rfl

end PlayerRegistry
