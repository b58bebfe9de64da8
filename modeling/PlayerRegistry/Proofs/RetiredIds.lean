import PlayerRegistry.Proofs.AtomicUpdate
import PlayerRegistry.Proofs.TableContract

/-!
# Ids that are not given out again

A new account gets an id above every one that was given out before, those of deleted accounts
included. So an account that somebody still has at hand after its row was deleted is never taken for
another one: whatever is done with it finds no row, fails, and changes nothing.
-/

namespace PlayerRegistry

open AccountTable (Statement notFound)

namespace AccountTable

/-- The id of the account that a statement creates. -/
def Statement.createdId? : Statement → AccountTable → Option Int
  | create new, t => (t.create new).1.toOption.map Account.id
  | _, _ => none

/-- The ids of the accounts that are created, in the order in which they are. -/
def createdIds : List Statement → AccountTable → List Int
  | [], _ => []
  | stmt :: rest, t => (stmt.createdId? t).toList ++ createdIds rest (stmt.run t).2

/-- The last id given out is what the statement created, or still the one before. -/
theorem lastId_run (stmt : Statement) (t : AccountTable) :
    (stmt.createdId? t = none ∧ (stmt.run t).2.lastId = t.lastId) ∨
      (stmt.createdId? t = some t.nextId ∧ (stmt.run t).2.lastId = t.lastId + 1) := by
  cases stmt with
  | create new =>
    simp only [Statement.createdId?, Statement.run]
    rcases create_cases t new with ⟨-, he⟩ | ⟨-, he⟩ <;> rw [he]
    · exact .inl ⟨rfl, rfl⟩
    · exact .inr ⟨rfl, rfl⟩
  | save a =>
    rw [Statement.run]
    rcases save_cases t a with ⟨-, he⟩ | ⟨-, -, he⟩ | ⟨-, -, he⟩ <;>
      · rw [he]
        exact .inl ⟨rfl, rfl⟩
  | setSession id token expiresAt =>
    rw [Statement.run]
    rcases setSession_cases t id token expiresAt with ⟨-, he⟩ | ⟨-, -, he⟩ | ⟨-, -, he⟩ <;>
      · rw [he]
        exact .inl ⟨rfl, rfl⟩
  | clearSession id => exact .inl ⟨rfl, rfl⟩
  | delete id =>
    rw [Statement.run]
    rcases delete_cases t id with ⟨-, he⟩ | ⟨-, he⟩ <;>
      · rw [he]
        exact .inl ⟨rfl, rfl⟩

theorem lt_createdIds {stmts : List Statement} {t : AccountTable} :
    ∀ id ∈ createdIds stmts t, (t.lastId : Int) < id := by
  induction stmts generalizing t with
  | nil => simp [createdIds]
  | cons stmt rest ih =>
    intro id h
    rcases List.mem_append.mp h with now | later
    · rcases lastId_run stmt t with ⟨none, -⟩ | ⟨created, -⟩
      · simp [none] at now
      · have : id = t.nextId := by simpa [created] using now
        rw [this, nextId]
        omega
    · have above := ih id later
      rcases lastId_run stmt t with ⟨-, last⟩ | ⟨-, last⟩ <;> omega

/-- Every id is above all that were given out before it, whatever has become of their accounts. -/
theorem pairwise_createdIds (stmts : List Statement) (t : AccountTable) :
    (createdIds stmts t).Pairwise (· < ·) := by
  induction stmts generalizing t with
  | nil => exact .nil
  | cons stmt rest ih =>
    rw [createdIds]
    rcases lastId_run stmt t with ⟨none, -⟩ | ⟨created, last⟩
    · simpa [none] using ih _
    · rw [created]
      refine List.pairwise_cons.mpr ⟨fun id later => ?_, ih _⟩
      have above := lt_createdIds id later
      rw [last] at above
      exact above

/-- The id was given out, and there is no row of it any more. -/
structure Retired (t : AccountTable) (id : Int) : Prop where
  given : id < t.nextId
  gone : ∀ x ∈ t.rows, x.account.id ≠ id

/-- A row is that of an old id, or of the next new one. -/
theorem id_of_mem_run {stmt : Statement} {t : AccountTable} {x : Row}
    (h : x ∈ (stmt.run t).2.rows) :
    (∃ y ∈ t.rows, y.account.id = x.account.id) ∨ x.account.id = t.nextId := by
  have changed : ∀ {id : Int} {f : Row → Row}, x ∈ (t.modify id f).rows →
      (∀ y, (f y).account.id = y.account.id) → ∃ y ∈ t.rows, y.account.id = x.account.id := by
    intro id f hx ids
    obtain ⟨y, hy, rfl⟩ := mem_modify.mp hx
    refine ⟨y, hy, ?_⟩
    split
    · exact (ids y).symm
    · rfl
  cases stmt with
  | create new =>
    rw [Statement.run] at h
    rcases create_cases t new with ⟨-, he⟩ | ⟨-, he⟩ <;> rw [he] at h
    · exact .inl ⟨x, h, rfl⟩
    · rcases List.mem_append.mp h with old | isNew
      · exact .inl ⟨x, old, rfl⟩
      · rw [List.mem_singleton.mp isNew]
        exact .inr rfl
  | save a =>
    rw [Statement.run] at h
    rcases save_cases t a with ⟨-, he⟩ | ⟨-, -, he⟩ | ⟨-, -, he⟩ <;> rw [he] at h
    · exact .inl ⟨x, h, rfl⟩
    · exact .inl ⟨x, h, rfl⟩
    · exact .inl (changed h fun _ => rfl)
  | setSession id token expiresAt =>
    rw [Statement.run] at h
    rcases setSession_cases t id token expiresAt with ⟨-, he⟩ | ⟨-, -, he⟩ | ⟨-, -, he⟩ <;>
      rw [he] at h
    · exact .inl ⟨x, h, rfl⟩
    · exact .inl ⟨x, h, rfl⟩
    · exact .inl (changed h fun _ => rfl)
  | clearSession id => exact .inl (changed h fun _ => rfl)
  | delete id =>
    rw [Statement.run] at h
    rcases delete_cases t id with ⟨-, he⟩ | ⟨-, he⟩ <;> rw [he] at h
    · exact .inl ⟨x, h, rfl⟩
    · exact .inl ⟨x, (List.mem_filter.mp h).1, rfl⟩

theorem nextId_run (stmt : Statement) (t : AccountTable) : t.nextId ≤ (stmt.run t).2.nextId := by
  rw [nextId, nextId]
  rcases lastId_run stmt t with ⟨-, last⟩ | ⟨-, last⟩ <;> omega

/-- What is retired stays so, whatever is done. -/
theorem Retired.run {t : AccountTable} {id : Int} (h : t.Retired id) (stmt : Statement) :
    (stmt.run t).2.Retired id where
  given := lt_of_lt_of_le h.given (nextId_run stmt t)
  gone := by
    intro x hx same
    rcases id_of_mem_run hx with ⟨y, hy, old⟩ | isNew
    · exact h.gone y hy (old.trans same)
    · exact absurd h.given (by rw [← same, isNew]; exact lt_irrefl _)

theorem retired_delete {t : AccountTable} (coherent : t.Coherent) {id : Int}
    (held : t.holds id = true) : (t.delete id).2.Retired id := by
  obtain ⟨x, hx, rfl⟩ := (holds_iff t id).mp held
  have given : x.account.id < t.nextId := by
    have := (coherent.numbered x hx).2
    rw [nextId]
    omega
  rcases delete_cases t x.account.id with ⟨absent, -⟩ | ⟨-, he⟩
  · exact absurd rfl (absent x hx)
  · rw [he]
    exact ⟨given, fun y hy => by simpa using (List.mem_filter.mp hy).2⟩

theorem clearSession_of_gone {t : AccountTable} {id : Int}
    (gone : ∀ x ∈ t.rows, x.account.id ≠ id) : t.clearSession id = t := by
  rw [clearSession, modify]
  refine congrArg (AccountTable.mk · t.lastId) ?_
  rw [List.map_congr_left fun x hx => if_neg (gone x hx)]
  exact List.map_id t.rows

theorem delete_of_gone {t : AccountTable} {id : Int} (gone : ∀ x ∈ t.rows, x.account.id ≠ id) :
    t.delete id = (.error notFound, t) := by
  rcases delete_cases t id with ⟨-, he⟩ | ⟨⟨x, hx, same⟩, -⟩
  · exact he
  · exact absurd same (gone x hx)

namespace Retired

variable {t : AccountTable} {id : Int}

theorem save {a : Account} (h : t.Retired a.id) : t.save a = (.error notFound, t) := by
  rcases save_cases t a with ⟨-, he⟩ | ⟨⟨x, hx, same⟩, -⟩ | ⟨⟨x, hx, same⟩, -⟩
  · exact he
  · exact absurd same (h.gone x hx)
  · exact absurd same (h.gone x hx)

theorem setSession (h : t.Retired id) (token : String) (expiresAt : Instant) :
    t.setSession id token expiresAt = (.error notFound, t) := by
  rcases setSession_cases t id token expiresAt with
    ⟨-, he⟩ | ⟨⟨x, hx, same⟩, -⟩ | ⟨⟨x, hx, same⟩, -⟩
  · exact he
  · exact absurd same (h.gone x hx)
  · exact absurd same (h.gone x hx)

theorem issue {a : Account} (h : t.Retired a.id) (session : Session) :
    t.issue a session = (.error notFound, t) := by
  rw [AccountTable.issue, h.setSession]

theorem clearSession (h : t.Retired id) : t.clearSession id = t := clearSession_of_gone h.gone

theorem delete (h : t.Retired id) : t.delete id = (.error notFound, t) := delete_of_gone h.gone

/-- An account that is made later is another one, also if it has the same name. -/
theorem lt_created (h : t.Retired id) {new : NewAccount} {b : Account} {t' : AccountTable}
    (created : t.create new = (.ok b, t')) : id < b.id := by
  rcases create_cases t new with ⟨-, he⟩ | ⟨-, he⟩
  · simp [he] at created
  · rw [he] at created
    obtain ⟨rfl, -⟩ : _ = b ∧ _ := by simpa using created
    exact h.given

end Retired

end AccountTable

/-- In a registry in which the id is retired the step leaves the accounts alone. -/
def Work.Harmless (id : Int) (update : Registry → Registry) : Prop :=
  ∀ r, r.accounts.Retired id → (update r).accounts = r.accounts

/-- One step is left, which finds no row in a registry in which the id is retired. -/
def Work.Misses {α : Type} (id : Int) (f : Flow Registry (Result α)) : Prop :=
  ∃ update next, f = .step update next ∧
    ∀ r, r.accounts.Retired id → (update r).accounts = r.accounts ∧
      next r = .done (.error notFound)

namespace Scene

/-- Why an update fails before it comes to the row of its account. -/
inductive FailsEarly (s : Scene) (a : Account) (q : UpdateRequest) (r : Registry) :
    Error → Prop where
  | fault {e} : firstFault (s.checkFaults a q) = some e → FailsEarly s a q r e
  | unhashed {text} : (s.random.salt r.draws).size < 8 → FailsEarly s a q r (.internal text)
  | refused {access kind} : s.refuses access kind = true →
      FailsEarly s a q r (Work.refused access kind)

variable {a : Account} {r : Registry}

theorem updateProfile_retired (retired : r.accounts.Retired a.id) (s : Scene) (q : UpdateRequest) :
    ∃ e r', (s.updateProfile a q).perform r = (.error e, r') ∧ r'.accounts = r.accounts ∧
      (e = notFound ∨ s.FailsEarly a q r e) := by
  have outcome := s.outcome_updateProfile a q r
  generalize done : (s.updateProfile a q).perform r = result at outcome
  cases outcome with
  | fault found accounts => exact ⟨_, _, rfl, accounts, .inr (.fault found)⟩
  | unhashed _ short accounts => exact ⟨_, _, rfl, accounts, .inr (.unhashed short)⟩
  | refused _ refuses accounts => exact ⟨_, _, rfl, accounts, .inr (.refused refuses)⟩
  | @save b _ _ prepared =>
    have own : b.id = a.id := by rw [prepared.updates.rest]
    rw [← own] at retired
    rw [retired.save]
    exact ⟨_, _, rfl, rfl, .inl rfl⟩

theorem beginSession_retired (retired : r.accounts.Retired a.id) (s : Scene) :
    (s.beginSession a).perform r = (.error notFound, { r with draws := r.draws + 1 }) := by
  have drawn : s.newSession.perform r =
      (.ok (Session.mint (s.random.token r.draws) s.now), { r with draws := r.draws + 1 }) := rfl
  rw [beginSession, Work.perform_bind_ok drawn]
  refine Work.perform_bind_error ?_ _
  rw [Work.perform_onAccounts, retired.issue]

theorem logout_of_gone (gone : ∀ x ∈ r.accounts.rows, x.account.id ≠ a.id) :
    (logout a).perform r = (.ok { a with session := ⟨none, none⟩ }, r) := by
  have cleared := AccountTable.clearSession_of_gone gone
  change (_, { r with accounts := r.accounts.clearSession a.id }) = _
  rw [cleared]
  rfl

/-- The textures of the account stay too. -/
theorem deleteAccount_of_gone (gone : ∀ x ∈ r.accounts.rows, x.account.id ≠ a.id) (s : Scene) :
    (s.deleteAccount a).perform r = (.error notFound, r) := by
  rw [deleteAccount, Work.perform_bind_ok (logout_of_gone gone)]
  refine Work.perform_bind_error ?_ _
  rw [Work.perform_onAccounts, AccountTable.delete_of_gone gone]

open Work (Harmless Misses)

/-- An update that has been refused, or has come to the row of its account. -/
inductive MissesOrFailed (id : Int) : Flow Registry (Result Account) → Prop where
  | failed (e : Error) : MissesOrFailed id (.done (.error e))
  | misses {f} : Misses id f → MissesOrFailed id f

theorem until_updateProfile_misses (s : Scene) (a : Account) (q : UpdateRequest) :
    Flow.Until Work.Quiet (MissesOrFailed a.id) (ExceptT.run (s.updateProfile a q)) := by
  apply (s.until_updateProfile a q).mono
  intro f ends
  cases ends with
  | failed e => exact .failed e
  | @save b updates =>
    have own : b.id = a.id := by rw [updates.rest]
    refine .misses ⟨_, _, run_save b, ?_⟩
    intro r retired
    rw [← own] at retired
    rw [retired.save]
    exact ⟨rfl, rfl⟩

theorem until_beginSession_misses (s : Scene) (a : Account) :
    Flow.Until Work.Quiet (Misses a.id) (ExceptT.run (s.beginSession a)) := by
  refine .later (fun _ => rfl) fun r => .now ⟨_, _, rfl, ?_⟩
  intro r' retired
  have missed := retired.issue (Session.mint (s.random.token r.draws) s.now)
  constructor
  · exact congrArg Prod.snd missed
  · change (Flow.bind (.done (r'.accounts.issue a _).1) _) = _
    rw [missed]
    rfl

theorem until_deleteAccount_misses (s : Scene) (a : Account) :
    Flow.Until (Harmless a.id) (Misses a.id) (ExceptT.run (s.deleteAccount a)) := by
  refine .later (fun r retired => ?_) fun r => .now ⟨_, _, rfl, ?_⟩
  · exact retired.clearSession
  · intro r' retired
    have missed := retired.delete
    constructor
    · exact congrArg Prod.snd missed
    · change (Flow.bind (.done (r'.accounts.delete a.id).1) _) = _
      rw [missed]
      rfl

end Scene

open Work (Harmless Misses)

/-- The row of the account was deleted. What is done with the account fails, and no row, of now or
of later, is taken for it. -/
structure Registry.Stale (r : Registry) (a : Account) : Prop where
  save : r.accounts.save a = (.error notFound, r.accounts)
  setSession : ∀ token expiresAt,
    r.accounts.setSession a.id token expiresAt = (.error notFound, r.accounts)
  clearSession : r.accounts.clearSession a.id = r.accounts
  delete : r.accounts.delete a.id = (.error notFound, r.accounts)
  updateProfile : ∀ (s : Scene) q, ∃ e r', (s.updateProfile a q).perform r = (.error e, r') ∧
    r'.accounts = r.accounts ∧ (e = notFound ∨ s.FailsEarly a q r e)
  beginSession : ∀ s : Scene, ∃ draws,
    (s.beginSession a).perform r = (.error notFound, { r with draws })
  logout : (Scene.logout a).perform r = (.ok { a with session := ⟨none, none⟩ }, r)
  deleteAccount : ∀ s : Scene, (s.deleteAccount a).perform r = (.error notFound, r)
  others : ∀ x ∈ r.accounts.rows, x.account.id ≠ a.id
  created : ∀ new b t, r.accounts.create new = (.ok b, t) → a.id < b.id

theorem Registry.stale_of_retired {r : Registry} {a : Account} (h : r.accounts.Retired a.id) :
    r.Stale a where
  save := h.save
  setSession := h.setSession
  clearSession := h.clearSession
  delete := h.delete
  updateProfile := Scene.updateProfile_retired h
  beginSession := fun s => ⟨_, Scene.beginSession_retired h s⟩
  logout := Scene.logout_of_gone h.gone
  deleteAccount := Scene.deleteAccount_of_gone h.gone
  others := h.gone
  created := fun _ _ _ => h.lt_created

namespace Run

variable {admits : Run → Scene → Operation → Prop} {x y : Run}

theorem Next.retired (next : Next admits x y) {id : Int} (h : x.registry.accounts.Retired id) :
    y.registry.accounts.Retired id := by
  cases next with
  | begin => exact h
  | @quiet _ r update _ _ _ quiet =>
    change (update r).accounts.Retired id
    rw [quiet r]
    exact h
  | @statement _ r update _ _ _ stmt performs =>
    change (update r).accounts.Retired id
    rw [performs r]
    exact h.run stmt

/-- An id whose row was deleted at any time is retired. -/
theorem Reached.retired (h : Reached admits x) {id : Int} {before : AccountTable}
    (deleted : ⟨.delete id, before⟩ ∈ x.transcript) (held : before.holds id = true) :
    x.registry.accounts.Retired id := by
  induction h with
  | refl => cases deleted
  | @tail y _ reached next ih =>
    have kept := fun old => next.retired (ih old)
    cases next with
    | begin => exact kept deleted
    | quiet => exact kept deleted
    | @statement transcript r update _ _ _ stmt performs =>
      rcases List.mem_cons.mp deleted with now | old
      · obtain ⟨rfl, rfl⟩ : _ = stmt ∧ _ = r.accounts := by simpa using now
        have coherent : r.accounts.Coherent := Reached.coherent reached
        change (update r).accounts.Retired id
        rw [performs r]
        exact AccountTable.retired_delete coherent held
      · exact kept old

/-- Of all the ids that are given out each is above those before it. So once the row of an account
has been deleted, nothing that is done with the account succeeds or changes the account table, at
whatever time and whatever has been registered since. That goes for operations among others too,
those under way at the deletion included: up to its last step an update changes no account, and if
the row is gone at that step, it finds none. -/
theorem ids_never_reused :
    (∀ stmts, (∀ id ∈ AccountTable.createdIds stmts .empty, 0 < id) ∧
      (AccountTable.createdIds stmts .empty).Pairwise (· < ·)) ∧
    (∀ (admits : Run → Scene → Operation → Prop) (x : Run), Reached admits x →
      ∀ (a : Account) (before : AccountTable), ⟨.delete a.id, before⟩ ∈ x.transcript →
        before.holds a.id = true →
        ∀ y, Later admits x y → y.registry.accounts.Retired a.id ∧ y.registry.Stale a) ∧
    (∀ (s : Scene) (a : Account),
      (∀ q, Flow.Until Work.Quiet (Scene.MissesOrFailed a.id)
        (ExceptT.run (s.updateProfile a q))) ∧
      Flow.Until Work.Quiet (Misses a.id) (ExceptT.run (s.beginSession a)) ∧
      Flow.Until (Harmless a.id) (Misses a.id) (ExceptT.run (s.deleteAccount a)) ∧
      Work.Within (Harmless a.id) (fun _ => True) (Scene.logout a)) := by
  refine ⟨?_, ?_, ?_⟩
  · intro stmts
    refine ⟨fun id h => ?_, AccountTable.pairwise_createdIds stmts .empty⟩
    exact AccountTable.lt_createdIds id h
  · intro admits x reached a before deleted held y later
    have retired : y.registry.accounts.Retired a.id := by
      induction later with
      | refl => exact reached.retired deleted held
      | tail _ next ih => exact next.retired ih
    exact ⟨retired, Registry.stale_of_retired retired⟩
  · intro s a
    exact ⟨s.until_updateProfile_misses a, s.until_beginSession_misses a,
      s.until_deleteAccount_misses a, fun _ retired => retired.clearSession, fun _ _ _ => trivial⟩

end Run

namespace Alice

open Scene (plain)

/-- What the next three draws make of the same request. -/
def again : NewAccount :=
  { new with
    uuid := (plain.random.uuid 3).toText
    password :=
      ⟨plain.random.salt 4, Argon2.hash ⟨8, 1, 1⟩ 32 "secret1".toUTF8 (plain.random.salt 4)⟩
    session := (Session.mint (plain.random.token 5) ⟨0⟩).columns }

/-- Alice has registered, deleted her account, and registered again. -/
def returned : Run where
  transcript := [⟨.create again, ⟨[], 1⟩⟩, ⟨.delete 1, registry.accounts.clearSession 1⟩,
    ⟨.clearSession 1, registry.accounts⟩, ⟨.create new, .empty⟩]
  registry := ⟨⟨[⟨AccountTable.NewAccount.toAccount again 2, true⟩], 2⟩, .empty, 6, []⟩
  works := [.done (.ok ()), .done (.ok ()), .done (.ok ())]

theorem reached_returned : Run.Reached (fun _ _ _ => True) returned := by
  have begun : Run.Reached (fun _ _ _ => True) _ :=
    (reached trivial).tail (.begin plain (.delete account) trivial)
  have loggedOut := begun.tail (.statement [] [_] (.clearSession 1) fun _ => rfl)
  have deleted := loggedOut.tail (.statement [] [_] (.delete 1) fun _ => rfl)
  have begunAgain := deleted.tail (.begin plain (.register request) trivial)
  have identified := begunAgain.tail (.quiet [] [_, _] fun _ => rfl)
  have salted := identified.tail (.quiet [] [_, _] fun _ => rfl)
  have minted := salted.tail (.quiet [] [_, _] fun _ => rfl)
  exact minted.tail (.statement [] [_, _] (.create again) fun _ => rfl)

/-- What Alice does with her first account does not reach her second one. -/
theorem first_account_is_stale :
    ⟨.delete 1, registry.accounts.clearSession 1⟩ ∈ returned.transcript ∧
    (registry.accounts.clearSession 1).holds 1 = true ∧
    returned.registry.accounts.save account = (.error notFound, returned.registry.accounts) ∧
    returned.registry.Stale account := by
  have deleted : ⟨.delete 1, registry.accounts.clearSession 1⟩ ∈ returned.transcript :=
    .tail _ (.head _)
  have stale := (Run.ids_never_reused.2.1 _ _ reached_returned account _ deleted rfl _ .refl).2
  exact ⟨deleted, rfl, stale.save, stale⟩

end Alice

end PlayerRegistry
