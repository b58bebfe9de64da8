import PlayerRegistry.Proofs.CarriedAccounts
import PlayerRegistry.Proofs.NameBounds
import PlayerRegistry.Proofs.OperationOutcomes

/-!
# Passwords over a history

Operations that follow one another, with the passwords that they set. What is kept of the password
of an account is the hash of the one that was set for it last, so that this one logs in to the
account, and another only if it has the same hash.
-/

namespace PlayerRegistry

/-- A password was set for an account. -/
structure PasswordSet where
  account : Int
  password : String

namespace PasswordSet

/-- The password that was set last for an account, where the last event comes first. -/
def last (events : List PasswordSet) (id : Int) : Option String :=
  (events.find? (·.account = id)).map (·.password)

variable {events : List PasswordSet} {id : Int} {p : String} {t t' : AccountTable} {y : Row}

theorem last_append (new events : List PasswordSet) (id : Int) :
    last (new ++ events) id = (last new id).or (last events id) := by
  rw [last, List.find?_append, Option.map_or]
  rfl

theorem last_eq_none (other : ∀ e ∈ events, e.account ≠ id) : last events id = none := by
  rw [last, List.find?_eq_none.mpr (by simpa using other)]
  rfl

theorem last_eq_some (same : ∀ e ∈ events, e.password = p) (own : ⟨id, p⟩ ∈ events) :
    last events id = some p := by
  rw [last]
  cases found : events.find? (·.account = id) with
  | none =>
    have other := List.find?_eq_none.mp found _ own
    simp at other
  | some e => rw [Option.map_some, same e (List.mem_of_find?_eq_some found)]

theorem mem_of_last (h : last events id = some p) : ⟨id, p⟩ ∈ events := by
  obtain ⟨e, found, rfl⟩ := Option.map_eq_some_iff.mp h
  have own : e.account = id := by simpa using List.find?_some found
  exact own ▸ List.mem_of_find?_eq_some found

/-- The accounts that have been made, each with this password. -/
def ofNew (password : String) (t t' : AccountTable) : List PasswordSet :=
  (t'.rows.filter fun x => !t.holds x.account.id).map fun x => ⟨x.account.id, password⟩

theorem mem_ofNew {e : PasswordSet} : e ∈ ofNew p t t' ↔
    e.password = p ∧ (∃ x ∈ t'.rows, x.account.id = e.account) ∧
      ∀ x ∈ t.rows, x.account.id ≠ e.account := by
  obtain ⟨id, password⟩ := e
  simp only [ofNew, List.mem_map, List.mem_filter, Bool.not_eq_true', ← Bool.not_eq_true,
    AccountTable.holds_iff, PasswordSet.mk.injEq]
  constructor
  · rintro ⟨x, ⟨hx, new⟩, rfl, rfl⟩
    exact ⟨rfl, ⟨x, hx, rfl⟩, fun y hy same => new ⟨y, hy, same⟩⟩
  · rintro ⟨rfl, ⟨x, hx, rfl⟩, new⟩
    exact ⟨x, ⟨hx, fun ⟨y, hy, same⟩ => new y hy same⟩, rfl, rfl⟩

theorem last_ofNew_of_held (p : String) (t' : AccountTable)
    (held : ∃ x ∈ t.rows, x.account.id = id) : last (ofNew p t t') id = none := by
  obtain ⟨x, hx, same⟩ := held
  apply last_eq_none
  rintro e he rfl
  exact (mem_ofNew.mp he).2.2 x hx same

theorem last_ofNew_of_new (p : String) (hy : y ∈ t'.rows)
    (new : ∀ x ∈ t.rows, x.account.id ≠ y.account.id) :
    last (ofNew p t t') y.account.id = some p :=
  last_eq_some (fun _ he => (mem_ofNew.mp he).1) (mem_ofNew.mpr ⟨rfl, ⟨y, hy, rfl⟩, new⟩)

end PasswordSet

open PasswordSet (last ofNew)

namespace Operation

/-- The passwords that an operation sets: those of the accounts that it makes, or the one that an
update asks for and that it has stored. -/
def passwordsSet (s : Scene) (r : Registry) : Operation → List PasswordSet
  | register q => ofNew q.password r.accounts ((s.register q).perform r).2.accounts
  | login q => ofNew q.password r.accounts ((s.login q).perform r).2.accounts
  | update a q =>
    if ((s.updateProfile a q).perform r).1.isOk then q.newPassword.toList.map (⟨a.id, ·⟩) else []
  | _ => []

/-- A row has the password that it had before, or the one that the operation has set for it. -/
def Explains (s : Scene) (r : Registry) (op : Operation) (y : Row) : Prop :=
  (∃ x ∈ r.accounts.rows, x.account.id = y.account.id ∧
    x.account.profile.password = y.account.profile.password ∧
    last (op.passwordsSet s r) y.account.id = none) ∨
  ∃ p, last (op.passwordsSet s r) y.account.id = some p ∧ p ≠ "" ∧
    ∃ k, s.service.credentials.newPassword p (s.random.salt k) = .ok y.account.profile.password

section
variable {s : Scene} {r : Registry} {op : Operation} {y : Row}

/-- An operation other than an update explains its rows if it makes accounts with the passwords that
it sets. -/
theorem explains_of_carries {N : String → ProfileColumns → Prop} {p : String}
    {t' : AccountTable} (coherent : r.accounts.Coherent)
    (sets : op.passwordsSet s r = ofNew p r.accounts t') (carries : r.accounts.Carries N t')
    (new : ∀ username profile, N username profile → p ≠ "" ∧
      ∃ k, s.service.credentials.newPassword p (s.random.salt k) = .ok profile.password)
    (hy : y ∈ t'.rows) : op.Explains s r y := by
  rcases carries.rows y hy with ⟨x, hx, sameId, -, same⟩ | ⟨above, made⟩
  · refine .inl ⟨x, hx, sameId, congrArg (·.password) same, ?_⟩
    rw [sets]
    exact PasswordSet.last_ofNew_of_held p t' ⟨x, hx, sameId⟩
  · refine .inr ⟨p, ?_, new _ _ made⟩
    rw [sets]
    refine PasswordSet.last_ofNew_of_new p hy fun x hx same => ?_
    have below := (coherent.numbered x hx).2
    omega

theorem explains_register (coherent : r.accounts.Coherent) (q : RegisterRequest)
    (hy : y ∈ ((s.register q).perform r).2.accounts.rows) : (register q).Explains s r y := by
  rcases Scene.accounts_register s q r with ⟨e, r', failed, same⟩ | ⟨made, r', done, -⟩
  · refine explains_of_carries (N := fun _ _ => False) coherent rfl ?_ (fun _ _ => False.elim) hy
    rw [failed]
    dsimp only
    rw [same]
    exact .refl _
  · have given := (Scene.checkRegistration_eq_ok_iff.mp (Scene.perform_register_ok done).1).2.1
    have carries := (register q).carries (N := fun _ profile => ∃ k,
      s.service.credentials.newPassword q.password (s.random.salt k) = .ok profile.password) s
      (by simp) (fun new ⟨_, _, _, makes⟩ _ => makes.password) r
    rw [work, Work.perform_ended] at carries
    exact explains_of_carries coherent rfl carries (fun _ _ hashed => ⟨given, hashed⟩) hy

theorem explains_login (coherent : r.accounts.Coherent) (q : LoginRequest)
    (hy : y ∈ ((s.login q).perform r).2.accounts.rows) : (login q).Explains s r y := by
  have carries := (login q).carries (N := fun _ profile => q.password ≠ "" ∧ ∃ k,
    s.service.credentials.newPassword q.password (s.random.salt k) = .ok profile.password) s
    (by simp) (fun new ⟨_, anonymous, _, makes⟩ _ => by
      obtain ⟨-, given, same⟩ := Scene.isAnonymous_iff.mp anonymous
      exact ⟨same ▸ given, makes.password⟩) r
  rw [work, Work.perform_ended] at carries
  exact explains_of_carries coherent rfl carries (fun _ _ h => h) hy

theorem explains_update {a : Account} {q : UpdateRequest}
    (current : (⟨a, true⟩ : Row) ∈ r.accounts.rows)
    (hy : y ∈ ((s.updateProfile a q).perform r).2.accounts.rows) :
    (update a q).Explains s r y := by
  rcases Scene.accounts_updateProfile s a q r with
    ⟨e, r', failed, same, -⟩ | ⟨b, r', done, updates, saved⟩
  · rw [failed] at hy
    refine .inl ⟨y, same ▸ hy, rfl, rfl, ?_⟩
    rw [passwordsSet, failed]
    rfl
  · have sets : (update a q).passwordsSet s r = q.newPassword.toList.map (⟨a.id, ·⟩) := by
      rw [passwordsSet, done]
      rfl
    rw [done, saved] at hy
    obtain ⟨x, hx, rfl⟩ := AccountTable.mem_modify.mp hy
    by_cases own : x.account.id = a.id
    · rw [if_pos own]
      cases given : q.newPassword with
      | none =>
        have kept : b.profile.password = a.profile.password :=
          updates.kept .password (by simp [UpdateRequest.Sets, given])
        refine .inl ⟨_, current, own.symm, kept.symm, ?_⟩
        rw [sets, given]
        rfl
      | some p =>
        obtain ⟨-, r₁, prepared, -⟩ := Scene.updateProfile_ok done
        refine .inr ⟨p, ?_, ?_, r.draws, prepared.password p given⟩
        · rw [sets, given]
          exact PasswordSet.last_eq_some (by simp) (by simp [own])
        · simpa using (Option.filter_eq_some_iff.mp given).2
    · rw [if_neg own]
      refine .inl ⟨x, hx, rfl, rfl, ?_⟩
      rw [sets]
      refine PasswordSet.last_eq_none fun e he same => ?_
      obtain ⟨p, -, rfl⟩ := List.mem_map.mp he
      exact own same.symm

theorem explains (coherent : r.accounts.Coherent) (current : op.SeesCurrent r.accounts)
    (hy : y ∈ ((op.work s).perform r).2.accounts.rows) : op.Explains s r y := by
  have quiet : (∀ a q, op ≠ .update a q) → (∀ new, ¬op.Issues s (.create new)) →
      op.passwordsSet s r = [] → op.Explains s r y := by
    intro other none sets
    have carries := op.carries (N := fun _ _ => False) s other
      (fun new created => (none new created).elim) r
    rcases carries.rows y hy with ⟨x, hx, sameId, -, same⟩ | ⟨-, impossible⟩
    · exact .inl ⟨x, hx, sameId, congrArg (·.password) same, by rw [sets]; rfl⟩
    · exact impossible.elim
  cases op with
  | register q => exact explains_register coherent q (by rwa [work, Work.perform_ended] at hy)
  | login q => exact explains_login coherent q (by rwa [work, Work.perform_ended] at hy)
  | update a q =>
    exact explains_update current (by rwa [work, Work.perform_ended] at hy)
  | _ =>
    refine quiet (by simp) (fun new created => ?_) rfl
    cases created

/-- An operation that sets the password of an account that was there before is an update. -/
theorem update_of_last {x : Row} {p : String} (hx : x ∈ r.accounts.rows)
    (set : last (op.passwordsSet s r) x.account.id = some p) :
    ∃ a q b r', op = .update a q ∧ a.id = x.account.id ∧
      (s.updateProfile a q).perform r = (.ok b, r') ∧ q.newPassword = some p := by
  have held : ∀ {given t'}, last (ofNew given r.accounts t') x.account.id = none :=
    PasswordSet.last_ofNew_of_held _ _ ⟨x, hx, rfl⟩
  cases op with
  | register q => exact absurd (held.symm.trans set) nofun
  | login q => exact absurd (held.symm.trans set) nofun
  | update a q =>
    rw [passwordsSet] at set
    rcases done : (s.updateProfile a q).perform r with ⟨e | b, r'⟩
    · rw [done] at set
      cases set
    · rw [done] at set
      obtain ⟨p', asked, own⟩ := List.mem_map.mp (PasswordSet.mem_of_last set)
      rw [PasswordSet.mk.injEq] at own
      obtain ⟨own, rfl⟩ := own
      exact ⟨a, q, b, r', rfl, own, done, Option.mem_toList.mp asked⟩
  | _ => cases set

end

end Operation

/-- Draws are as long as they are asked to be. -/
def RandomSource.IsFull (source : RandomSource) : Prop := ∀ k n, (source.draw k n).size = n

/-- A registry after operations that were done one after another with one cost of hashing, and the
passwords that they set, the last first. -/
inductive Guarded (cost : Argon2.Cost) : List PasswordSet → Registry → Prop
  | start : Guarded cost [] .empty
  | operation {events r} (before : Guarded cost events r) (s : Scene) (op : Operation)
      (hashes : s.service.credentials.cost = cost) (full : s.random.IsFull)
      (current : op.SeesCurrent r.accounts) :
      Guarded cost (op.passwordsSet s r ++ events) ((op.work s).perform r).2

/-- What is kept is the hash of the password under a salt of 16 bytes. -/
structure PasswordHash.IsOf (kept : PasswordHash) (cost : Argon2.Cost) (password : String) : Prop
    where
  salt : kept.salt.size = 16
  hash : kept.hash = Argon2.hash cost Credentials.hashLength password.toUTF8 kept.salt

theorem Operation.Issues.named {s : Scene} {op : Operation} {stmt : AccountTable.Statement}
    (h : op.Issues s stmt) : stmt.Preserves fun a => a.username ≠ "" := by
  cases stmt with
  | create new =>
    intro id
    change new.username ≠ ""
    cases op with
    | register q =>
      obtain ⟨checked, _, -, makes⟩ := h
      intro blank
      exact ((checkUsername_iff _).mp checked).1 (by rw [← makes.username, blank]; rfl)
    | login q =>
      obtain ⟨given, -, _, makes⟩ := h
      exact makes.username ▸ given
    | _ => cases h
  | delete => trivial
  | _ => exact fun _ named => named

namespace Guarded

variable {cost : Argon2.Cost} {events : List PasswordSet} {r : Registry}

theorem reached (guarded : Guarded cost events r) :
    ∃ x, Run.Reached Run.SeesStored x ∧ x.registry = r := by
  induction guarded with
  | start => exact ⟨.start, .refl, rfl⟩
  | operation before s op hashes full current ih =>
    obtain ⟨x, reached, rfl⟩ := ih
    exact reached.follow s current

theorem coherent (guarded : Guarded cost events r) : r.accounts.Coherent := by
  obtain ⟨x, reached, rfl⟩ := guarded.reached
  exact reached.coherent

theorem named (guarded : Guarded cost events r) : r.accounts.All fun a => a.username ≠ "" := by
  obtain ⟨x, reached, rfl⟩ := guarded.reached
  exact (reached.alwaysAll fun _ _ _ _ _ _ issues => issues.named).now

/-- The password that was set last is kept. -/
theorem kept (guarded : Guarded cost events r) : ∀ x ∈ r.accounts.rows,
    ∃ p, last events x.account.id = some p ∧ p ≠ "" ∧ x.account.profile.password.IsOf cost p := by
  induction guarded with
  | start =>
    intro x hx
    cases hx
  | @operation events r before s op hashes full current ih =>
    intro y hy
    rw [PasswordSet.last_append]
    rcases Operation.explains before.coherent current hy with
      ⟨x, hx, sameId, same, none⟩ | ⟨p, set, given, k, hashed⟩
    · rw [none, Option.none_or, ← sameId, ← same]
      exact ih x hx
    · obtain ⟨-, salt, fits⟩ := Credentials.newPassword_eq_ok hashed
      rw [set, Option.some_or]
      exact ⟨p, rfl, given, by rw [salt]; exact full k 16, hashes ▸ fits.symm⟩

theorem login_succeeds (guarded : Guarded cost events r) {x : Row} (hx : x ∈ r.accounts.rows)
    {p : String} (given : p ≠ "") (kept : x.account.profile.password.IsOf cost p) {s : Scene}
    (hashes : s.service.credentials.cost = cost)
    (fresh : ∀ y ∈ r.accounts.rows, y.account.session.token ≠ some (s.random.token r.draws)) :
    ∃ made r', (s.login ⟨x.account.username, p⟩).perform r = (.ok made, r') ∧
      made.account.id = x.account.id := by
  have known := guarded.coherent.findByUsername_of_mem hx rfl
  have fits : s.service.credentials.Fits p x.account.profile.password := by
    rw [Credentials.Fits, hashes]
    exact kept.hash.symm
  rw [Scene.perform_login_known (q := ⟨x.account.username, p⟩) ⟨guarded.named x hx, given⟩ known,
    Scene.perform_loginTo (by rw [kept.salt]; decide) fits, Scene.perform_beginSession hx fresh]
  exact ⟨_, _, rfl, rfl⟩

theorem fits_of_login (guarded : Guarded cost events r) {x : Row} (hx : x ∈ r.accounts.rows)
    {s : Scene} (hashes : s.service.credentials.cost = cost) {q : String} {made : SignedIn}
    {r' : Registry} (done : (s.login ⟨x.account.username, q⟩).perform r = (.ok made, r')) :
    Argon2.hash cost Credentials.hashLength q.toUTF8 x.account.profile.password.salt =
      x.account.profile.password.hash := by
  obtain ⟨p, -, -, kept⟩ := guarded.kept x hx
  have known := guarded.coherent.findByUsername_of_mem hx rfl
  by_contra other
  by_cases given : q = ""
  · rw [Scene.perform_login_blank (.inr given)] at done
    cases done
  · have unfit : ¬s.service.credentials.Fits q x.account.profile.password := by
      rwa [Credentials.Fits, hashes]
    rw [Scene.perform_login_known (q := ⟨x.account.username, q⟩) ⟨guarded.named x hx, given⟩ known,
      Scene.perform_loginTo_refused (by rw [kept.salt]; decide) unfit] at done
    cases done

/-- Nothing but an update that asks for a password and succeeds changes what is kept. -/
theorem changes (guarded : Guarded cost events r) {s : Scene} {op : Operation}
    (current : op.SeesCurrent r.accounts) {x y : Row} (hx : x ∈ r.accounts.rows)
    (hy : y ∈ ((op.work s).perform r).2.accounts.rows) (same : y.account.id = x.account.id)
    (other : y.account.profile.password ≠ x.account.profile.password) :
    ∃ a q b r' p, op = .update a q ∧ a.id = x.account.id ∧
      (s.updateProfile a q).perform r = (.ok b, r') ∧ q.password = some p ∧ p ≠ "" := by
  have coherent := guarded.coherent
  rcases Operation.explains coherent current hy with ⟨z, hz, sameId, kept, -⟩ | ⟨p, set, -⟩
  · obtain rfl := coherent.ids z hz x hx (by simp) (congrArg some (sameId.trans same))
    exact absurd kept.symm other
  · rw [same] at set
    obtain ⟨a, q, b, r', rfl, own, done, asked⟩ := Operation.update_of_last hx set
    obtain ⟨asked, given⟩ := Option.filter_eq_some_iff.mp asked
    exact ⟨a, q, b, r', p, rfl, own, done, asked, by simpa using given⟩

end Guarded

/-- Whatever has been done, one operation after another: what is kept of the password of an account
is the hash of the one that was set for it last, under a salt of 16 bytes. With this one its player
can log in, and with another only if that has the same hash. Nothing but an update that asks for a
password and succeeds changes what is kept of an account. -/
theorem password_history {cost : Argon2.Cost} {events : List PasswordSet} {r : Registry}
    (guarded : Guarded cost events r) :
    (∀ x ∈ r.accounts.rows, x.account.profile.password.hash.size = 32 ∧
      ∃ p, last events x.account.id = some p ∧ x.account.profile.password.IsOf cost p ∧
        ∀ s : Scene, s.service.credentials.cost = cost →
          (∀ y ∈ r.accounts.rows, y.account.session.token ≠ some (s.random.token r.draws)) →
          ∃ made r', (s.login ⟨x.account.username, p⟩).perform r = (.ok made, r') ∧
            made.account.id = x.account.id) ∧
    (∀ x ∈ r.accounts.rows, ∀ s : Scene, s.service.credentials.cost = cost → ∀ q made r',
      (s.login ⟨x.account.username, q⟩).perform r = (.ok made, r') →
      Argon2.hash cost 32 q.toUTF8 x.account.profile.password.salt =
        x.account.profile.password.hash) ∧
    (∀ (s : Scene) (op : Operation), op.SeesCurrent r.accounts → ∀ x ∈ r.accounts.rows,
      ∀ y ∈ ((op.work s).perform r).2.accounts.rows, y.account.id = x.account.id →
      y.account.profile.password ≠ x.account.profile.password →
      ∃ a q b r' p, op = .update a q ∧ a.id = x.account.id ∧
        (s.updateProfile a q).perform r = (.ok b, r') ∧ q.password = some p ∧ p ≠ "") := by
  refine ⟨fun x hx => ?_, fun x hx s hashes q made r' => guarded.fits_of_login hx hashes,
    fun s op current x hx y => guarded.changes current hx⟩
  obtain ⟨p, set, given, kept⟩ := guarded.kept x hx
  have fits : Credentials.Fits ⟨cost, 0⟩ p x.account.profile.password := kept.hash.symm
  exact ⟨Credentials.Fits.size fits, p, set, kept,
    fun s hashes => guarded.login_succeeds hx given kept hashes⟩

namespace Alice

open Scene (plain)

theorem guarded : Guarded ⟨8, 1, 1⟩ [⟨1, "secret1"⟩] afterNewName := by
  have full : plain.random.IsFull := fun k n => by simp [plain, Scene.quiet, ByteArray.size]
  have first : Guarded ⟨8, 1, 1⟩ [⟨1, "secret1"⟩] registry :=
    .operation .start plain (.register request) rfl full trivial
  exact .operation first plain (.update account newName) rfl full List.mem_cons_self

/-- With another name, Alice keeps the password that she has registered with. -/
theorem renamed_keeps_password :
    renamed.profile.password.hash.size = 32 ∧
      renamed.profile.password.IsOf ⟨8, 1, 1⟩ "secret1" := by
  obtain ⟨size, p, set, kept, -⟩ :=
    (password_history guarded).1 ⟨renamed, true⟩ List.mem_cons_self
  obtain rfl : "secret1" = p := Option.some.inj set
  exact ⟨size, kept⟩

end Alice

end PlayerRegistry
