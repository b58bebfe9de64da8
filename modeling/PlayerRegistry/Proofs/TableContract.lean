import Mathlib.Data.List.Nodup
import Mathlib.Logic.Function.Basic
import PlayerRegistry.Proofs.Runs

/-!
# The contract of the account table

Seen from outside, the account table is a map from ids to accounts. The map alone decides whether a
statement is refused and what the lookups find, and a statement that is not refused changes the map
in one place. What the rows look like does not matter.
-/

namespace PlayerRegistry.AccountTable

/-- A table that statements have made of the empty one. -/
inductive Reachable : AccountTable → Prop where
  | empty : Reachable .empty
  | run {t} (before : Reachable t) (stmt : Statement) : Reachable (stmt.run t).2

theorem Reachable.coherent {t : AccountTable} (h : t.Reachable) : t.Coherent := by
  induction h with
  | empty => exact .empty
  | run _ stmt ih => exact ih.run stmt

abbrev AccountMap := Int → Option Account

/-- The account of an id. -/
def account? (t : AccountTable) : AccountMap := fun id => (t.row? id).map Row.account

theorem account?_eq_none_iff {t : AccountTable} {id : Int} :
    t.account? id = none ↔ ∀ x ∈ t.rows, x.account.id ≠ id := by
  simp [account?, row?]

theorem account?_ne_none_iff {t : AccountTable} {id : Int} :
    t.account? id ≠ none ↔ ∃ x ∈ t.rows, x.account.id = id := by
  rw [Ne, account?_eq_none_iff]
  push Not
  rfl

theorem Coherent.account?_eq_some_iff {t : AccountTable} (h : t.Coherent) {id : Int}
    {a : Account} : t.account? id = some a ↔ (⟨a, true⟩ : Row) ∈ t.rows ∧ a.id = id := by
  constructor
  · intro found
    obtain ⟨⟨_, readable⟩, hx, rfl⟩ := Option.map_eq_some_iff.mp found
    have mem := List.mem_of_find?_eq_some hx
    have readable : readable = true := h.readable _ mem
    subst readable
    exact ⟨mem, id_of_row? hx⟩
  · rintro ⟨mem, rfl⟩
    cases hx : t.row? a.id with
    | none =>
      have := List.find?_eq_none.mp hx _ mem
      simp at this
    | some x =>
      have : x = ⟨a, true⟩ := h.ids x (List.mem_of_find?_eq_some hx) _ mem (by simp)
        (congrArg some (id_of_row? hx))
      simp [account?, hx, this]

/-- An account is in the map under its own id, if at all. -/
theorem Coherent.stored_iff {t : AccountTable} (h : t.Coherent) {a : Account} :
    t.account? a.id = some a ↔ (⟨a, true⟩ : Row) ∈ t.rows := by
  rw [h.account?_eq_some_iff]
  simp

theorem Coherent.exists_row_iff {t : AccountTable} (h : t.Coherent) {p : Account → Prop} :
    (∃ x ∈ t.rows, p x.account) ↔ ∃ a, t.account? a.id = some a ∧ p a := by
  constructor
  · rintro ⟨⟨a, readable⟩, hx, hp⟩
    have readable : readable = true := h.readable _ hx
    subst readable
    exact ⟨a, h.stored_iff.mpr hx, hp⟩
  · rintro ⟨a, stored, hp⟩
    exact ⟨⟨a, true⟩, h.stored_iff.mp stored, hp⟩

theorem account?_modify (t : AccountTable) (id : Int) {f : Row → Row} {g : Account → Account}
    (same : ∀ x, (f x).account = g x.account) (ids : ∀ a, (g a).id = a.id) :
    (t.modify id f).account? = Function.update t.account? id ((t.account? id).map g) := by
  have rowIds : ∀ x, (f x).account.id = x.account.id := fun x => by rw [same, ids]
  funext i
  by_cases hi : i = id
  · subst hi
    rw [Function.update_self, account?, account?, row?_modify_self t i rowIds]
    cases t.row? i with
    | none => rfl
    | some x => exact congrArg some (same x)
  · rw [Function.update_of_ne hi, account?, account?, row?_modify_of_ne t hi rowIds]

/-- A new account would share with an old one what only one may have. -/
def Shares (new : NewAccount) (a : Account) : Prop :=
  a.uuid = new.uuid ∨ a.username = new.username ∨ a.profile.playerName = new.playerName ∨
    ∃ token, new.session.token = some token ∧ a.session.token = some token

theorem clashes_iff (new : NewAccount) (a : Account) :
    clashes new a = true ↔ Shares new a := by
  cases h : new.session.token with
  | none => simp [clashes, Shares, h, or_assoc]
  | some token => simp [clashes, Shares, h, or_assoc]

/-- Why a statement is refused. That a row is missing is noticed before what others have. -/
inductive Refused (m : AccountMap) : Statement → Error → Prop where
  | shared {new a} : m a.id = some a → Shares new a → Refused m (.create new) taken
  | noneToSave {a} : m a.id = none → Refused m (.save a) notFound
  | nameTaken {a b} : m a.id ≠ none → m b.id = some b → b.id ≠ a.id →
      b.profile.playerName = a.profile.playerName → Refused m (.save a) taken
  | noneToSetSession {id token expiresAt} : m id = none →
      Refused m (.setSession id token expiresAt) notFound
  | tokenTaken {id token expiresAt b} : m id ≠ none → m b.id = some b → b.id ≠ id →
      b.session.token = some token → Refused m (.setSession id token expiresAt) taken
  | noneToDelete {id} : m id = none → Refused m (.delete id) notFound

/-- What a statement does to the map, if it is not refused. A new account gets the id `newId`. -/
def Statement.onMap (newId : Int) (m : AccountMap) : Statement → AccountMap
  | create new => Function.update m newId (some (NewAccount.toAccount new newId))
  | save a => Function.update m a.id ((m a.id).map fun b => { b with profile := a.profile })
  | setSession id token expiresAt => Function.update m id
      ((m id).map fun b => { b with session := ⟨some token, some expiresAt⟩ })
  | clearSession id => Function.update m id
      ((m id).map fun b => { b with session := ⟨none, none⟩ })
  | delete id => Function.update m id none

/-- The id that the next new account gets. -/
def nextId (t : AccountTable) : Int := (t.lastId + 1 : Nat)

theorem Coherent.lt_nextId {t : AccountTable} (h : t.Coherent) {id : Int}
    (held : t.account? id ≠ none) : id < t.nextId := by
  obtain ⟨x, hx, rfl⟩ := account?_ne_none_iff.mp held
  have := (h.numbered x hx).2
  rw [nextId]
  omega

theorem account?_append (t : AccountTable) {x : Row}
    (free : t.account? x.account.id = none) (lastId : Nat) :
    account? ⟨t.rows ++ [x], lastId⟩ =
      Function.update t.account? x.account.id (some x.account) := by
  funext i
  unfold account? row? at free ⊢
  rw [List.find?_append]
  by_cases hi : i = x.account.id
  · subst hi
    rw [Function.update_self, Option.map_eq_none_iff.mp free]
    simp
  · have other : [x].find? (fun y => decide (y.account.id = i)) = none := by
      simpa using Ne.symm hi
    rw [Function.update_of_ne hi, other, Option.or_none]

theorem account?_filter (t : AccountTable) (id : Int) :
    account? { t with rows := t.rows.filter (·.account.id ≠ id) } =
      Function.update t.account? id none := by
  funext i
  by_cases hi : i = id
  · subst hi
    rw [Function.update_self, account?_eq_none_iff]
    intro x hx
    simpa using (List.mem_filter.mp hx).2
  · unfold account? row?
    rw [Function.update_of_ne hi, List.find?_filter]
    refine congrArg (Option.map _) (congrArg (List.find? · t.rows) (funext fun x => ?_))
    by_cases hx : x.account.id = i
    · simp [hx, hi]
    · simp [hx]

/-- What the table answers to a statement, and the table that it leaves. -/
structure Answers (t : AccountTable) (stmt : Statement) : Prop where
  refused : ∀ e, (stmt.run t).1 = .error e ↔ Refused t.account? stmt e
  kept : ∀ e, (stmt.run t).1 = .error e → (stmt.run t).2 = t
  done : (stmt.run t).1 = .ok () → (stmt.run t).2.account? = stmt.onMap t.nextId t.account?

theorem Answers.of_refused {t : AccountTable} {stmt : Statement} {e : Error}
    (run : stmt.run t = (.error e, t)) (refused : Refused t.account? stmt e)
    (only : ∀ e', Refused t.account? stmt e' → e' = e) : t.Answers stmt where
  refused := by
    intro e'
    rw [run]
    constructor
    · rintro ⟨⟩
      exact refused
    · intro h
      rw [only e' h]
  kept := fun _ _ => by rw [run]
  done := by
    rw [run]
    simp

theorem Answers.of_done {t t' : AccountTable} {stmt : Statement} (run : stmt.run t = (.ok (), t'))
    (free : ∀ e, ¬Refused t.account? stmt e)
    (map : t'.account? = stmt.onMap t.nextId t.account?) : t.Answers stmt where
  refused := by
    intro e
    rw [run]
    exact iff_of_false (by simp) (free e)
  kept := by
    rw [run]
    simp
  done := by
    rw [run]
    exact fun _ => map

theorem Coherent.answers_create {t : AccountTable} (h : t.Coherent) (new : NewAccount) :
    t.Answers (.create new) := by
  rcases create_cases t new with ⟨clash, he⟩ | ⟨free, he⟩
  · obtain ⟨a, stored, shares⟩ := (h.exists_row_iff (p := (clashes new ·))).mp clash
    refine .of_refused (by simp [Statement.run, he, Except.map])
      (.shared stored ((clashes_iff new a).mp shares)) ?_
    rintro e' ⟨⟩
    rfl
  · refine .of_done (by simp only [Statement.run, he, Except.map]; rfl) ?_ ?_
    · rintro e ⟨stored, shares⟩
      have := free _ (h.stored_iff.mp stored)
      simp [(clashes_iff new _).mpr shares] at this
    · apply account?_append
      by_contra held
      exact absurd (h.lt_nextId held) (Int.lt_irrefl _)

theorem Coherent.answers_save {t : AccountTable} (h : t.Coherent) (a : Account) :
    t.Answers (.save a) := by
  rcases save_cases t a with ⟨missing, he⟩ | ⟨held, clash, he⟩ | ⟨held, free, he⟩
  · have missing := account?_eq_none_iff.mpr missing
    refine .of_refused he (.noneToSave missing) ?_
    rintro e' (_ | _ | ⟨held, -⟩)
    · rfl
    · exact absurd missing held
  · have held := account?_ne_none_iff.mpr held
    obtain ⟨b, stored, other, same⟩ := (h.exists_row_iff (p := fun b =>
      b.id ≠ a.id ∧ b.profile.playerName = a.profile.playerName)).mp clash
    refine .of_refused he (.nameTaken held stored other same) ?_
    rintro e' (_ | missing | _)
    · exact absurd missing held
    · rfl
  · have held := account?_ne_none_iff.mpr held
    refine .of_done he ?_ ?_
    · rintro e (_ | missing | ⟨-, stored, other, same⟩)
      · exact held missing
      · exact free _ (h.stored_iff.mp stored) other same
    · exact account?_modify t a.id (fun _ => rfl) fun _ => rfl

theorem Coherent.answers_setSession {t : AccountTable} (h : t.Coherent) (id : Int)
    (token : String) (expiresAt : Instant) : t.Answers (.setSession id token expiresAt) := by
  rcases setSession_cases t id token expiresAt with
    ⟨missing, he⟩ | ⟨held, clash, he⟩ | ⟨held, free, he⟩
  · have missing := account?_eq_none_iff.mpr missing
    refine .of_refused he (.noneToSetSession missing) ?_
    rintro e' (_ | _ | _ | _ | ⟨held, -⟩)
    · rfl
    · exact absurd missing held
  · have held := account?_ne_none_iff.mpr held
    obtain ⟨b, stored, other, same⟩ := (h.exists_row_iff (p := fun b =>
      b.id ≠ id ∧ b.session.token = some token)).mp clash
    refine .of_refused he (.tokenTaken held stored other same) ?_
    rintro e' (_ | _ | _ | missing | _)
    · exact absurd missing held
    · rfl
  · have held := account?_ne_none_iff.mpr held
    refine .of_done he ?_ ?_
    · rintro e (_ | _ | _ | missing | ⟨-, stored, other, same⟩)
      · exact held missing
      · exact free _ (h.stored_iff.mp stored) other same
    · exact account?_modify t id (fun _ => rfl) fun _ => rfl

theorem answers_clearSession (t : AccountTable) (id : Int) : t.Answers (.clearSession id) := by
  refine .of_done rfl ?_ ?_
  · rintro e ⟨⟩
  · exact account?_modify t id (fun _ => rfl) fun _ => rfl

theorem answers_delete (t : AccountTable) (id : Int) : t.Answers (.delete id) := by
  rcases delete_cases t id with ⟨missing, he⟩ | ⟨held, he⟩
  · refine .of_refused he (.noneToDelete (account?_eq_none_iff.mpr missing)) ?_
    rintro e' ⟨⟩
    rfl
  · have held := account?_ne_none_iff.mpr held
    refine .of_done he ?_ (account?_filter t id)
    rintro e (_ | _ | _ | _ | _ | missing)
    exact held missing

theorem Coherent.answers {t : AccountTable} (h : t.Coherent) (stmt : Statement) :
    t.Answers stmt := by
  cases stmt with
  | create new => exact h.answers_create new
  | save a => exact h.answers_save a
  | setSession id token expiresAt => exact h.answers_setSession id token expiresAt
  | clearSession id => exact answers_clearSession t id
  | delete id => exact answers_delete t id

/-- The values of a key are pairwise distinct. -/
theorem Coherent.nodup {t : AccountTable} (h : t.Coherent) {κ : Type} {key : Account → Option κ}
    (unique : t.Unique key) : (t.rows.filterMap fun x => key x.account).Nodup := by
  have apart : t.rows.Pairwise (· ≠ ·) := h.sorted.imp fun {x y} before same => by
    subst same
    exact absurd before (Int.lt_irrefl _)
  rw [List.Nodup, List.pairwise_filterMap]
  refine apart.imp_of_mem ?_
  intro x y hx hy other k hk k' hk' same
  subst same
  exact other (unique x hx y hy (by simp [hk]) (hk.trans hk'.symm))

/-- What only one account may have, no two accounts have. -/
structure Distinct (t : AccountTable) : Prop where
  ids : (t.rows.map (·.account.id)).Nodup
  uuids : (t.rows.map (·.account.uuid)).Nodup
  usernames : (t.rows.map (·.account.username)).Nodup
  playerNames : (t.rows.map (·.account.profile.playerName)).Nodup
  tokens : (t.rows.filterMap (·.account.session.token)).Nodup

theorem Coherent.distinct {t : AccountTable} (h : t.Coherent) : t.Distinct where
  ids := by simpa using h.nodup h.ids
  uuids := by simpa using h.nodup h.uuids
  usernames := by simpa using h.nodup h.usernames
  playerNames := by simpa using h.nodup h.playerNames
  tokens := h.nodup h.tokens

/-- A lookup by a key finds the account that has it, and nothing where there is none. -/
theorem Coherent.find_iff {t : AccountTable} (h : t.Coherent) {κ : Type}
    {key : Account → Option κ} (unique : t.Unique key) {p : Account → Bool} {k : κ}
    (meaning : ∀ a, p a = true ↔ key a = some k) :
    ∃ found, t.find p = .ok found ∧
      ∀ a, found = some a ↔ t.account? a.id = some a ∧ key a = some k := by
  obtain ⟨found, hf⟩ := h.find_ok p
  refine ⟨found, hf, fun a => ?_⟩
  rw [h.stored_iff]
  constructor
  · rintro rfl
    obtain ⟨⟨_, readable⟩, hx, rfl, has⟩ := mem_of_find hf
    have readable : readable = true := h.readable _ hx
    subst readable
    exact ⟨hx, (meaning _).mp has⟩
  · rintro ⟨hx, has⟩
    have only : ∀ y ∈ t.rows, p y.account = true → y = ⟨a, true⟩ := by
      intro y hy hyp
      have hyk := (meaning _).mp hyp
      exact unique y hy _ hx (by simp [hyk]) (hyk.trans has.symm)
    have := h.find_of_mem hx ((meaning a).mpr has) only
    exact Except.ok.inj (hf.symm.trans this)

theorem Coherent.findById {t : AccountTable} (h : t.Coherent) (id : Int) :
    t.findById id = .ok (t.account? id) := by
  obtain ⟨found, hf, finds⟩ := h.find_iff (p := (·.id = id)) (k := id) h.ids (by simp)
  rw [AccountTable.findById, hf]
  refine congrArg Except.ok (Option.ext fun a => ?_)
  rw [finds, h.stored_iff, h.account?_eq_some_iff, Option.some.injEq]

/-- Whatever statements have made the table: the map decides what is refused and why, a refused
statement leaves the table as it is, and any other changes the map in one place and does not touch
what it has no business with. A new account is handed back as it is stored, and its id is beyond
all that there are. What only one account may have, no two accounts have, and a lookup finds the
one account that has it. -/
theorem table_contract {t : AccountTable} (h : t.Reachable) :
    (∀ stmt, t.Answers stmt) ∧
    (∀ new a, (t.create new).1 = .ok a → a = NewAccount.toAccount new t.nextId ∧
      (t.create new).2.account? a.id = some a) ∧
    (∀ id, t.account? id ≠ none → id < t.nextId) ∧
    t.Distinct ∧
    (∀ id, t.findById id = .ok (t.account? id)) ∧
    (∀ username, ∃ found, t.findByUsername username = .ok found ∧
      ∀ a, found = some a ↔ t.account? a.id = some a ∧ a.username = username) ∧
    (∀ token, ∃ found, t.findByToken token = .ok found ∧
      ∀ a, found = some a ↔ t.account? a.id = some a ∧ a.session.token = some token) := by
  have coherent := h.coherent
  refine ⟨coherent.answers, ?_, fun id => coherent.lt_nextId, coherent.distinct,
    coherent.findById, ?_, ?_⟩
  · intro new a created
    rcases create_cases t new with ⟨-, he⟩ | ⟨-, he⟩
    · simp [he] at created
    · rw [he] at created
      have : a = NewAccount.toAccount new t.nextId := (Except.ok.inj created).symm
      subst this
      have map := (coherent.answers_create new).done (by simp [Statement.run, he, Except.map])
      refine ⟨rfl, ?_⟩
      have : (t.create new).2.account? = _ := map
      rw [this]
      exact Function.update_self _ _ _
  · intro username
    obtain ⟨found, hf, finds⟩ :=
      coherent.find_iff (p := (·.username = username)) (k := username) coherent.usernames
        (by simp)
    exact ⟨found, hf, by simpa using finds⟩
  · intro token
    exact coherent.find_iff (p := (·.session.token = some token)) coherent.tokens (by simp)

/-- Another account with the name of Alice: she is not found, whoever has the name. As a new
account she is refused for the name. -/
theorem other_alice_is_refused :
    Reachable Alice.registry.accounts ∧
    (Alice.registry.accounts.save { Alice.account with id := 2 }).1 = .error notFound ∧
    (Alice.registry.accounts.create { Alice.new with uuid := "" }).1 = .error taken ∧
    (Alice.registry.accounts.create { Alice.new with uuid := "" }).2 = Alice.registry.accounts := by
  have reached : Reachable Alice.registry.accounts := .run .empty (.create Alice.new)
  have answers := (table_contract reached).1
  have missing : Refused Alice.registry.accounts.account? (.save { Alice.account with id := 2 })
      notFound := .noneToSave rfl
  have named : Refused Alice.registry.accounts.account? (.create { Alice.new with uuid := "" })
      taken := .shared (a := Alice.account) rfl (.inr (.inl rfl))
  have refused := ((answers (.create { Alice.new with uuid := "" })).refused taken).mpr named
  have failed : (Alice.registry.accounts.create { Alice.new with uuid := "" }).1 =
      .error taken := by
    cases h : (Alice.registry.accounts.create { Alice.new with uuid := "" }).1 with
    | error e => simpa [Statement.run, h, Except.map] using refused
    | ok a => simp [Statement.run, h, Except.map] at refused
  exact ⟨reached, ((answers _).refused notFound).mpr missing, failed,
    (answers (.create { Alice.new with uuid := "" })).kept taken refused⟩

end PlayerRegistry.AccountTable
