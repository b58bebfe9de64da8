import PlayerRegistry.Proofs.NewAccounts
import PlayerRegistry.Proofs.StoredAccounts
import PlayerRegistry.Proofs.UuidText

/-!
# The UUIDs of accounts

The account table compares UUIDs as texts, while players may spell theirs in several ways. Every
text that is stored is canonical, so that no two accounts stand for the same UUID; and as long as
there is an account with a UUID, no registration that names it succeeds, however it is spelled.
-/

namespace PlayerRegistry

open AccountTable (Statement)

/-- The account stands for this UUID. -/
def Account.Denotes (a : Account) (u : Uuid) : Prop := u.Spells a.uuid.toList

/-- An account with the canonical text of a UUID stands for no other. -/
theorem Account.denotes_iff {a : Account} {u v : Uuid} (text : a.uuid = u.toText) :
    a.Denotes v ↔ v = u := by
  rw [Denotes, ← Uuid.ofChars?_eq_some_iff, text]
  change Uuid.parse? u.toText = some v ↔ v = u
  rw [Uuid.parse?_toText, Option.some.injEq]
  exact eq_comm

/-- There is an account with a canonical text of this UUID. -/
def AccountTable.Has (t : AccountTable) (u : Uuid) : Prop :=
  ∃ x ∈ t.rows, Uuid.IsCanonical x.account.uuid ∧ x.account.Denotes u

namespace Scene

/-- The player chooses this UUID, or has it at the provider; blanks around a chosen one do not
count. -/
inductive Names (s : Scene) (q : RegisterRequest) (u : Uuid) : Prop where
  | chosen {text} : q.existingPlayer = false → q.chosenUuid = some text →
      u.Spells (Text.trim text.toList) → Names s q u
  | brought {m profile} : q.existingPlayer = true → s.service.policy.migration = some m →
      (Provider.lookupProfile s.web m.accountUrl q.username).result = .ok (some profile) →
      u.Spells profile.id.toList → Names s q u

/-- A registration that names a UUID is for no other. -/
theorem Names.eq_of_uuidFor {s : Scene} {q : RegisterRequest} {u v : Uuid} (names : s.Names q u)
    (identified : s.UuidFor q v) : v = u := by
  have same : ∀ {cs}, u.Spells cs → Uuid.ofChars? cs = some v → v = u := by
    intro cs spells read
    rw [Uuid.ofChars?_eq_some_iff.mpr spells] at read
    exact (Option.some.inj read).symm
  cases names with
  | chosen new given spells =>
    cases identified with
    | chosen _ given' read =>
      rw [given, Option.some.injEq] at given'
      exact same spells (given' ▸ read)
    | drawn _ _ none => simp [given] at none
    | brought existing => simp [new] at existing
  | brought existing migration looked spells =>
    cases identified with
    | chosen new => simp [existing] at new
    | drawn _ new => simp [existing] at new
    | brought _ migration' looked' read =>
      rw [migration, Option.some.injEq] at migration'
      subst migration'
      rw [looked, Except.ok.injEq, Option.some.injEq] at looked'
      exact same spells (looked' ▸ read)

end Scene

namespace AccountTable

theorem Has.exists_text {t : AccountTable} {u : Uuid} (h : t.Has u) :
    ∃ x ∈ t.rows, x.account.uuid = u.toText := by
  obtain ⟨x, hx, canonical, denotes⟩ := h
  exact ⟨x, hx, canonical.eq_toText denotes⟩

theorem Has.create_refused {t : AccountTable} {u : Uuid} (h : t.Has u) {new : NewAccount}
    (text : new.uuid = u.toText) : t.create new = (.error taken, t) := by
  obtain ⟨x, hx, same⟩ := h.exists_text
  rcases create_cases t new with ⟨-, he⟩ | ⟨free, -⟩
  · exact he
  · have clash := free x hx
    simp [clashes, same, text] at clash

end AccountTable

/-- The texts that are written are canonical. -/
theorem Operation.Issues.canonical {s : Scene} {op : Operation} {stmt : Statement}
    (h : op.Issues s stmt) : stmt.Preserves fun a => ∃ u : Uuid, a.uuid = u.toText := by
  cases stmt with
  | create new =>
    intro id
    cases op with
    | register q =>
      obtain ⟨-, u, -, makes⟩ := h
      exact ⟨u, makes.uuid⟩
    | login q =>
      obtain ⟨-, -, u, makes⟩ := h
      exact ⟨u, makes.uuid⟩
    | _ => cases h
  | delete => trivial
  | _ => exact fun _ canonical => canonical

namespace Scene

open Work

variable {s : Scene} {q : RegisterRequest} {u : Uuid}

/-- Such a registration creates no account but one with the canonical text of the UUID. -/
theorem Names.within_register (names : s.Names q u) :
    Within (Statements fun stmt => ∃ new, stmt = .create new ∧ new.uuid = u.toText)
      (fun made => made.account.uuid = u.toText) (s.register q) := by
  refine (s.within_register q ?_).mono (fun _ h => h) ?_
  · intro new v _ identified makes
    obtain rfl := names.eq_of_uuidFor identified
    exact ⟨new, rfl, makes.uuid⟩
  · rintro made ⟨v, identified, text⟩
    obtain rfl := names.eq_of_uuidFor identified
    exact text

theorem createAccount_fails (s : Scene) (username password : String) (u : Uuid) :
    FailsWhile (fun r => r.accounts.Has u) (s.createAccount username password u.toText) := by
  apply (within_newPassword (S := fun _ => True) s password).bind_fails
  intro kept _
  apply (within_newSession (S := fun _ => True) s).bind_fails
  intro session _
  apply FailsWhile.bind
  apply failsWhile_onAccounts
  intro r has
  exact ⟨_, congrArg Prod.fst (has.create_refused rfl)⟩

theorem Names.register_fails (names : s.Names q u) :
    FailsWhile (fun r => r.accounts.Has u) (s.register q) := by
  rw [register_eq]
  refine (within_ofResult (P := Statements fun _ => True) (Q := fun _ => True)
    fun _ _ => trivial).bind_fails ?_
  intro _ _
  apply (within_uuidFor (S := fun _ => True) s q).bind_fails
  rintro _ ⟨v, identified, rfl⟩
  obtain rfl := names.eq_of_uuidFor identified
  exact (createAccount_fails s _ _ _).conflictAs _

/-- Nothing that such a registration does changes a table that has the UUID. -/
theorem accounts_of_creates {update : Registry → Registry}
    (h : Statements (fun stmt => ∃ new, stmt = .create new ∧ new.uuid = u.toText) update)
    {r : Registry} (has : r.accounts.Has u) : (update r).accounts = r.accounts := by
  rcases h with quiet | ⟨_, ⟨new, rfl, text⟩, performs⟩
  · exact quiet r
  · rw [performs r]
    exact congrArg Prod.snd (has.create_refused text)

theorem Names.perform_register (names : s.Names q u) {r : Registry} (has : r.accounts.Has u) :
    (∃ e, ((s.register q).perform r).1 = .error e) ∧
      ((s.register q).perform r).2.accounts = r.accounts := by
  constructor
  · refine names.register_fails.perform names.within_register ?_ has
    intro update creates r has
    rwa [accounts_of_creates creates has]
  · have kept := Flow.Within.run names.within_register
      (R := fun r r' => r.accounts.Has u → r'.accounts = r.accounts) (fun _ _ => rfl) ?_
      (fun _ creates _ has => accounts_of_creates creates has) r
    · exact kept.2 has
    · intro r r' r'' first second has
      exact (second (by rwa [first has])).trans (first has)

end Scene

namespace Run

variable {admits : Run → Scene → Operation → Prop} {x : Run}

theorem Reached.canonical (h : Reached admits x) :
    x.registry.accounts.All fun a => ∃ u : Uuid, a.uuid = u.toText :=
  (h.alwaysAll fun _ _ _ _ _ _ issues => issues.canonical).now

/-- Whatever has been done, the UUIDs of accounts are canonical texts that differ in what they
mean. A registration that names a UUID makes an account of it in the canonical text, and fails if
an account has it all the while. Done alone, it adds its account to the table, or leaves the table
as it is where an account has the UUID. -/
theorem uuids_identify (reached : Reached admits x) :
    (∀ row ∈ x.registry.accounts.rows, Uuid.IsCanonical row.account.uuid ∧
      ∃ u, ∀ v, row.account.Denotes v ↔ v = u) ∧
    (∀ row ∈ x.registry.accounts.rows, ∀ row' ∈ x.registry.accounts.rows, ∀ u,
      row.account.Denotes u → row'.account.Denotes u → row = row') ∧
    ∀ (s : Scene) q u, s.Names q u →
      Work.Within (fun _ => True)
        (fun made => Uuid.IsCanonical made.account.uuid ∧ made.account.Denotes u)
        (s.register q) ∧
      Work.FailsWhile (fun r => r.accounts.Has u) (s.register q) ∧
      (∀ made r, (s.register q).perform x.registry = (.ok made, r) →
        ⟨made.account, true⟩ ∈ r.accounts.rows) ∧
      ((∃ row ∈ x.registry.accounts.rows, row.account.Denotes u) →
        (∃ e, ((s.register q).perform x.registry).1 = .error e) ∧
        ((s.register q).perform x.registry).2.accounts = x.registry.accounts) := by
  refine ⟨?_, ?_, ?_⟩
  · intro row hrow
    obtain ⟨u, text⟩ := reached.canonical row hrow
    exact ⟨text ▸ u.isCanonical_toText, u, fun v => Account.denotes_iff text⟩
  · intro row hrow row' hrow' u denotes denotes'
    obtain ⟨v, text⟩ := reached.canonical row hrow
    obtain ⟨v', text'⟩ := reached.canonical row' hrow'
    obtain rfl := (Account.denotes_iff text).mp denotes
    obtain rfl := (Account.denotes_iff text').mp denotes'
    exact reached.coherent.uuids row hrow row' hrow' (by simp)
      (congrArg some (text.trans text'.symm))
  · intro s q u names
    refine ⟨?_, names.register_fails, ?_, ?_⟩
    · refine names.within_register.mono (fun _ _ => trivial) ?_
      intro made text
      exact ⟨text ▸ u.isCanonical_toText, (Account.denotes_iff text).mpr rfl⟩
    · intro made r done
      obtain ⟨-, text, r₁, -, created⟩ := Scene.perform_register_ok done
      obtain ⟨-, -, -, rfl⟩ := Scene.perform_createAccount_ok created
      simp
    · rintro ⟨row, hrow, denotes⟩
      obtain ⟨v, text⟩ := reached.canonical row hrow
      exact names.perform_register ⟨row, hrow, text ▸ v.isCanonical_toText, denotes⟩

/-- Bob would like to have Alice's UUID, which he writes without dashes. -/
theorem other_spelling_is_refused :
    let choosing : Config := { newPlayers := ⟨true, true⟩ }
    let s : Scene := .quiet { Service.plain with config := choosing, policy := ⟨choosing, none⟩ }
    Alice.account.uuid = "00000000-0000-4000-8000-000000000000" ∧
    ∃ e, ((s.register ⟨"bob", "secret1", some " 00000000000040008000000000000000", false⟩).perform
      Alice.run.registry).1 = .error e := by
  intro choosing s
  have reached : Reached (fun _ _ _ => True) Alice.run := Alice.reached trivial
  have law := uuids_identify reached
  have names : s.Names ⟨"bob", "secret1", some " 00000000000040008000000000000000", false⟩
      (Scene.plain.random.uuid 0) :=
    .chosen rfl rfl (Uuid.ofChars?_eq_some_iff.mp (by decide))
  have denotes : Alice.account.Denotes (Scene.plain.random.uuid 0) :=
    Uuid.ofChars?_eq_some_iff.mp (Uuid.parse?_toText _)
  obtain ⟨-, -, -, refused⟩ := law.2.2 s _ _ names
  exact ⟨by decide, (refused ⟨⟨Alice.account, true⟩, List.mem_cons_self, denotes⟩).1⟩

end Run

end PlayerRegistry
