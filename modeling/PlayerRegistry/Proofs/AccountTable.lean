import Mathlib.Data.List.Pairwise
import PlayerRegistry.Account.Session

/-!
# Coherent account tables

A statement is one change of the account table, as the table itself carries it out. Whatever the
statements that made it, a table is coherent: its rows are in the order of their ids, each of them
can be read, and no two of them share a UUID, a username, a player name or a session token.
-/

namespace PlayerRegistry.AccountTable

/-- One change of the account table. -/
inductive Statement where
  | create (new : NewAccount)
  | save (a : Account)
  | setSession (id : Int) (token : String) (expiresAt : Instant)
  | clearSession (id : Int)
  | delete (id : Int)

/-- Whether a statement succeeds, and the table that it leaves. -/
def Statement.run : Statement → AccountTable → Result Unit × AccountTable
  | create new, t => ((t.create new).1.map fun _ => (), (t.create new).2)
  | save a, t => t.save a
  | setSession id token expiresAt, t => t.setSession id token expiresAt
  | clearSession id, t => (.ok (), t.clearSession id)
  | delete id, t => t.delete id

/-- No two rows have the same value of a key; rows that have none are not compared. -/
def Unique {κ : Type} (key : Account → Option κ) (t : AccountTable) : Prop :=
  ∀ x ∈ t.rows, ∀ y ∈ t.rows, key x.account ≠ none → key x.account = key y.account → x = y

structure Coherent (t : AccountTable) : Prop where
  sorted : t.rows.Pairwise fun x y => x.account.id < y.account.id
  numbered : ∀ x ∈ t.rows, 0 < x.account.id ∧ x.account.id ≤ t.lastId
  uuids : t.Unique fun a => some a.uuid
  usernames : t.Unique fun a => some a.username
  playerNames : t.Unique fun a => some a.profile.playerName
  tokens : t.Unique fun a => a.session.token
  readable : ∀ x ∈ t.rows, x.readable = true

theorem Coherent.empty : Coherent empty where
  sorted := .nil
  numbered := by simp [AccountTable.empty]
  uuids := by simp [AccountTable.empty, Unique]
  usernames := by simp [AccountTable.empty, Unique]
  playerNames := by simp [AccountTable.empty, Unique]
  tokens := by simp [AccountTable.empty, Unique]
  readable := by simp [AccountTable.empty]

theorem Coherent.ids {t : AccountTable} (h : t.Coherent) : t.Unique fun a => some a.id := by
  intro x hx y hy _ same
  have hid : x.account.id = y.account.id := Option.some.inj same
  have apart := h.sorted.imp (S := fun x y => x.account.id ≠ y.account.id) fun hlt => by omega
  by_contra hne
  have : Std.Symm fun x y : Row => x.account.id ≠ y.account.id := ⟨fun _ _ h => h.symm⟩
  exact apart.forall hx hy hne hid

theorem holds_iff (t : AccountTable) (id : Int) :
    t.holds id = true ↔ ∃ x ∈ t.rows, x.account.id = id := by
  simp [holds]

theorem mem_of_find {t : AccountTable} {p : Account → Bool} {a : Account}
    (h : t.find p = .ok (some a)) : ∃ x ∈ t.rows, x.account = a ∧ p a = true := by
  rw [find] at h
  cases hf : t.rows.find? fun x => p x.account with
  | none => simp [hf] at h
  | some x =>
    have hp : p x.account = true := by simpa using List.find?_some hf
    have read : (Row.read x).map some = .ok (some a) := by simpa [hf] using h
    have same : x.account = a := by
      by_cases hr : x.readable = true
      · simpa [Row.read, hr, Except.map] using read
      · simp [Row.read, hr, Except.map] at read
    exact ⟨x, List.mem_of_find?_eq_some hf, same, same ▸ hp⟩

/-- Looking up in a coherent table never fails. -/
theorem Coherent.find_ok {t : AccountTable} (h : t.Coherent) (p : Account → Bool) :
    ∃ found, t.find p = .ok found := by
  rw [find]
  cases hf : t.rows.find? fun x => p x.account with
  | none => exact ⟨none, rfl⟩
  | some x =>
    have hr := h.readable x (List.mem_of_find?_eq_some hf)
    exact ⟨some x.account, by simp [Row.read, hr, Except.map]⟩

theorem Coherent.find_of_mem {t : AccountTable} (h : t.Coherent) {p : Account → Bool} {x : Row}
    (hx : x ∈ t.rows) (hp : p x.account = true)
    (only : ∀ y ∈ t.rows, p y.account = true → y = x) : t.find p = .ok (some x.account) := by
  rw [find]
  cases hf : t.rows.find? fun y => p y.account with
  | none =>
    have := List.find?_eq_none.mp hf x hx
    exact absurd hp this
  | some y =>
    have hy : y ∈ t.rows := List.mem_of_find?_eq_some hf
    have : y = x := only y hy (by simpa using List.find?_some hf)
    subst this
    simp [Row.read, h.readable y hy, Except.map]

/-- The row of an id. -/
def row? (t : AccountTable) (id : Int) : Option Row := t.rows.find? (·.account.id = id)

theorem id_of_row? {t : AccountTable} {id : Int} {x : Row} (h : t.row? id = some x) :
    x.account.id = id := by
  simpa using List.find?_some h

theorem row?_modify (t : AccountTable) (id id' : Int) {f : Row → Row}
    (ids : ∀ x, (f x).account.id = x.account.id) :
    (t.modify id f).row? id' = (t.row? id').map fun x => if x.account.id = id then f x else x := by
  unfold row? modify
  rw [List.find?_map]
  refine congrArg (Option.map _) (congrArg (List.find? · t.rows) (funext fun x => ?_))
  by_cases hx : x.account.id = id
  · simp [hx, ids]
  · simp [hx]

theorem row?_modify_self (t : AccountTable) (id : Int) {f : Row → Row}
    (ids : ∀ x, (f x).account.id = x.account.id) : (t.modify id f).row? id = (t.row? id).map f := by
  rw [row?_modify t id id ids]
  refine Option.map_congr fun x hx => ?_
  rw [if_pos (id_of_row? hx)]

theorem row?_modify_of_ne (t : AccountTable) {id id' : Int} (other : id' ≠ id) {f : Row → Row}
    (ids : ∀ x, (f x).account.id = x.account.id) : (t.modify id f).row? id' = t.row? id' := by
  rw [row?_modify t id id' ids]
  cases hx : t.row? id' with
  | none => rfl
  | some x =>
    have hid : x.account.id ≠ id := id_of_row? hx ▸ other
    simp [hid]

theorem create_cases (t : AccountTable) (new : NewAccount) :
    ((∃ x ∈ t.rows, clashes new x.account = true) ∧ t.create new = (.error taken, t)) ∨
    ((∀ x ∈ t.rows, clashes new x.account = false) ∧
      t.create new = (.ok (NewAccount.toAccount new (t.lastId + 1 : Nat)),
        ⟨t.rows ++ [⟨NewAccount.toAccount new (t.lastId + 1 : Nat), true⟩], t.lastId + 1⟩)) := by
  rw [create]
  by_cases h : (t.rows.any fun x => clashes new x.account) = true
  · exact .inl ⟨by simpa using h, by simp [h]⟩
  · exact .inr ⟨by simpa using h, by simp [h]⟩

theorem save_cases (t : AccountTable) (a : Account) :
    ((∀ x ∈ t.rows, x.account.id ≠ a.id) ∧ t.save a = (.error notFound, t)) ∨
    ((∃ x ∈ t.rows, x.account.id = a.id) ∧
      (∃ x ∈ t.rows, x.account.id ≠ a.id ∧
        x.account.profile.playerName = a.profile.playerName) ∧ t.save a = (.error taken, t)) ∨
    ((∃ x ∈ t.rows, x.account.id = a.id) ∧
      (∀ x ∈ t.rows, x.account.id ≠ a.id →
        x.account.profile.playerName ≠ a.profile.playerName) ∧
      t.save a = (.ok (),
        t.modify a.id fun x => ⟨{ x.account with profile := a.profile }, true⟩)) := by
  rw [save]
  have clash_iff : (t.rows.any fun x =>
      x.account.id ≠ a.id && x.account.profile.playerName = a.profile.playerName) = true ↔
      ∃ x ∈ t.rows, x.account.id ≠ a.id ∧
        x.account.profile.playerName = a.profile.playerName := by simp
  by_cases held : t.holds a.id = true
  · have row := (holds_iff t a.id).mp held
    rw [if_neg (by simp [held])]
    by_cases clash : ∃ x ∈ t.rows, x.account.id ≠ a.id ∧
        x.account.profile.playerName = a.profile.playerName
    · exact .inr (.inl ⟨row, clash, if_pos (clash_iff.mpr clash)⟩)
    · refine .inr (.inr ⟨row, fun x hx hne he => clash ⟨x, hx, hne, he⟩, ?_⟩)
      exact if_neg fun h => clash (clash_iff.mp h)
  · have none : ∀ x ∈ t.rows, x.account.id ≠ a.id := fun x hx he =>
      held ((holds_iff t a.id).mpr ⟨x, hx, he⟩)
    exact .inl ⟨none, if_pos (by simp [held])⟩

theorem setSession_cases (t : AccountTable) (id : Int) (token : String) (expiresAt : Instant) :
    ((∀ x ∈ t.rows, x.account.id ≠ id) ∧
      t.setSession id token expiresAt = (.error notFound, t)) ∨
    ((∃ x ∈ t.rows, x.account.id = id) ∧
      (∃ x ∈ t.rows, x.account.id ≠ id ∧ x.account.session.token = some token) ∧
      t.setSession id token expiresAt = (.error taken, t)) ∨
    ((∃ x ∈ t.rows, x.account.id = id) ∧
      (∀ x ∈ t.rows, x.account.id ≠ id → x.account.session.token ≠ some token) ∧
      t.setSession id token expiresAt = (.ok (), t.modify id fun x =>
        { x with account := { x.account with session := ⟨some token, some expiresAt⟩ } })) := by
  rw [setSession]
  have clash_iff : (t.rows.any fun x =>
      x.account.id ≠ id && x.account.session.token = some token) = true ↔
      ∃ x ∈ t.rows, x.account.id ≠ id ∧ x.account.session.token = some token := by simp
  by_cases held : t.holds id = true
  · have row := (holds_iff t id).mp held
    rw [if_neg (by simp [held])]
    by_cases clash : ∃ x ∈ t.rows, x.account.id ≠ id ∧ x.account.session.token = some token
    · exact .inr (.inl ⟨row, clash, if_pos (clash_iff.mpr clash)⟩)
    · refine .inr (.inr ⟨row, fun x hx hne he => clash ⟨x, hx, hne, he⟩, ?_⟩)
      exact if_neg fun h => clash (clash_iff.mp h)
  · have none : ∀ x ∈ t.rows, x.account.id ≠ id := fun x hx he =>
      held ((holds_iff t id).mpr ⟨x, hx, he⟩)
    exact .inl ⟨none, if_pos (by simp [held])⟩

theorem delete_cases (t : AccountTable) (id : Int) :
    ((∀ x ∈ t.rows, x.account.id ≠ id) ∧ t.delete id = (.error notFound, t)) ∨
    ((∃ x ∈ t.rows, x.account.id = id) ∧
      t.delete id = (.ok (), { t with rows := t.rows.filter (·.account.id ≠ id) })) := by
  rw [delete]
  by_cases held : t.holds id = true
  · exact .inr ⟨(holds_iff t id).mp held, by simp [held]⟩
  · have none : ∀ x ∈ t.rows, x.account.id ≠ id := fun x hx he =>
      held ((holds_iff t id).mpr ⟨x, hx, he⟩)
    exact .inl ⟨none, by simp [held]⟩

theorem mem_modify {t : AccountTable} {id : Int} {f : Row → Row} {y : Row} :
    y ∈ (t.modify id f).rows ↔
      ∃ x ∈ t.rows, (if x.account.id = id then f x else x) = y := by
  simp [modify]

/-- Rows other than that of `id` do not have the key that `f` gives to it. -/
def Free {κ : Type} (key : Account → Option κ) (t : AccountTable) (id : Int) (f : Row → Row) :
    Prop :=
  ∀ x ∈ t.rows, x.account.id = id → key (f x).account ≠ none →
    ∀ y ∈ t.rows, y.account.id ≠ id → key y.account ≠ key (f x).account

theorem Unique.free {κ : Type} {key : Account → Option κ} {t : AccountTable}
    (unique : t.Unique key) {f : Row → Row} (same : ∀ x, key (f x).account = key x.account)
    (id : Int) : t.Free key id f := by
  intro x hx hid has y hy hne he
  rw [same] at has he
  have : x = y := unique x hx y hy has he.symm
  subst this
  exact hne hid

theorem Unique.modify {κ : Type} {key : Account → Option κ} {t : AccountTable}
    (unique : t.Unique key) (ids : t.Unique fun a => some a.id) {id : Int} {f : Row → Row}
    (free : t.Free key id f) : (t.modify id f).Unique key := by
  intro x' hx' y' hy' has same
  obtain ⟨x, hx, rfl⟩ := mem_modify.mp hx'
  obtain ⟨y, hy, rfl⟩ := mem_modify.mp hy'
  by_cases hxid : x.account.id = id <;> by_cases hyid : y.account.id = id
  · have : x = y := ids x hx y hy (by simp) (congrArg some (hxid.trans hyid.symm))
    rw [this]
  · rw [if_pos hxid] at has same
    rw [if_neg hyid] at same
    exact absurd same.symm (free x hx hxid has y hy hyid)
  · rw [if_neg hxid] at has same
    rw [if_pos hyid] at same
    exact absurd same (free y hy hyid (same ▸ has) x hx hxid)
  · rw [if_neg hxid] at has same ⊢
    rw [if_neg hyid] at same ⊢
    exact unique x hx y hy has same

/-- What may be done to one row of a coherent table. -/
theorem Coherent.modify {t : AccountTable} (h : t.Coherent) {id : Int} {f : Row → Row}
    (ids : ∀ x, (f x).account.id = x.account.id)
    (uuids : ∀ x, (f x).account.uuid = x.account.uuid)
    (usernames : ∀ x, (f x).account.username = x.account.username)
    (readable : ∀ x, x.readable = true → (f x).readable = true)
    (playerNames : t.Free (fun a => some a.profile.playerName) id f)
    (tokens : t.Free (fun a => a.session.token) id f) : (t.modify id f).Coherent where
  sorted := by
    have keeps : ∀ x : Row, (if x.account.id = id then f x else x).account.id = x.account.id := by
      intro x
      split
      · exact ids x
      · rfl
    simpa [AccountTable.modify, List.pairwise_map, keeps] using h.sorted
  numbered := by
    intro x' hx'
    obtain ⟨x, hx, rfl⟩ := mem_modify.mp hx'
    split
    · rw [ids]
      exact h.numbered x hx
    · exact h.numbered x hx
  uuids := h.uuids.modify h.ids (h.uuids.free (fun x => by rw [uuids]) id)
  usernames := h.usernames.modify h.ids (h.usernames.free (fun x => by rw [usernames]) id)
  playerNames := h.playerNames.modify h.ids playerNames
  tokens := h.tokens.modify h.ids tokens
  readable := by
    intro x' hx'
    obtain ⟨x, hx, rfl⟩ := mem_modify.mp hx'
    split
    · exact readable x (h.readable x hx)
    · exact h.readable x hx

theorem Unique.append {κ : Type} {key : Account → Option κ} {t : AccountTable}
    (unique : t.Unique key) {new : Row} {lastId : Nat}
    (free : key new.account ≠ none → ∀ x ∈ t.rows, key x.account ≠ key new.account) :
    Unique key ⟨t.rows ++ [new], lastId⟩ := by
  intro x hx y hy has same
  rcases List.mem_append.mp hx with old | isNew <;> rcases List.mem_append.mp hy with old' | isNew'
  · exact unique x old y old' has same
  · have : y = new := by simpa using isNew'
    subst this
    exact absurd same (free (same ▸ has) x old)
  · have : x = new := by simpa using isNew
    subst this
    exact absurd same.symm (free has y old')
  · have hx' : x = new := by simpa using isNew
    have hy' : y = new := by simpa using isNew'
    rw [hx', hy']

theorem Coherent.create {t : AccountTable} (h : t.Coherent) (new : NewAccount) :
    (t.create new).2.Coherent := by
  rcases create_cases t new with ⟨-, he⟩ | ⟨free, he⟩ <;> rw [he]
  · exact h
  · simp only [clashes, Bool.or_eq_false_iff, decide_eq_false_iff_not, Bool.and_eq_false_imp]
      at free
    exact {
      sorted := by
        refine List.pairwise_append.mpr ⟨h.sorted, List.pairwise_singleton _ _, ?_⟩
        intro x hx y hy
        have : y = ⟨NewAccount.toAccount new (t.lastId + 1 : Nat), true⟩ := by simpa using hy
        subst this
        have := (h.numbered x hx).2
        simp only [NewAccount.toAccount]
        omega
      numbered := by
        intro x hx
        rcases List.mem_append.mp hx with hx | hx
        · have := h.numbered x hx
          simp only
          omega
        · have : x = ⟨NewAccount.toAccount new (t.lastId + 1 : Nat), true⟩ := by simpa using hx
          subst this
          simp only [NewAccount.toAccount]
          omega
      uuids := h.uuids.append fun _ x hx he => (free x hx).1.1.1 (Option.some.inj he)
      usernames := h.usernames.append fun _ x hx he => (free x hx).1.1.2 (Option.some.inj he)
      playerNames := h.playerNames.append fun _ x hx he => (free x hx).1.2 (Option.some.inj he)
      tokens := h.tokens.append fun has x hx he =>
        (free x hx).2 (Option.isSome_iff_ne_none.mpr has) he
      readable := by
        intro x hx
        rcases List.mem_append.mp hx with hx | hx
        · exact h.readable x hx
        · have : x = ⟨NewAccount.toAccount new (t.lastId + 1 : Nat), true⟩ := by simpa using hx
          rw [this] }

theorem Coherent.save {t : AccountTable} (h : t.Coherent) (a : Account) :
    (t.save a).2.Coherent := by
  rcases save_cases t a with ⟨-, he⟩ | ⟨-, -, he⟩ | ⟨-, free, he⟩ <;> rw [he]
  · exact h
  · exact h
  · refine h.modify (fun _ => rfl) (fun _ => rfl) (fun _ => rfl) (fun _ _ => rfl) ?_
      (h.tokens.free (fun _ => rfl) a.id)
    intro x _ _ _ y hy hne he
    exact free y hy hne (Option.some.inj he)

theorem Coherent.setSession {t : AccountTable} (h : t.Coherent) (id : Int) (token : String)
    (expiresAt : Instant) : (t.setSession id token expiresAt).2.Coherent := by
  rcases setSession_cases t id token expiresAt with ⟨-, he⟩ | ⟨-, -, he⟩ | ⟨-, free, he⟩ <;>
    rw [he]
  · exact h
  · exact h
  · refine h.modify (fun _ => rfl) (fun _ => rfl) (fun _ => rfl) (fun _ hr => hr)
      (h.playerNames.free (fun _ => rfl) id) ?_
    intro x _ _ _ y hy hne he
    exact free y hy hne he

theorem Coherent.clearSession {t : AccountTable} (h : t.Coherent) (id : Int) :
    (t.clearSession id).Coherent := by
  refine h.modify (fun _ => rfl) (fun _ => rfl) (fun _ => rfl) (fun _ hr => hr)
    (h.playerNames.free (fun _ => rfl) id) ?_
  intro x _ _ has
  exact absurd rfl has

theorem Unique.filter {κ : Type} {key : Account → Option κ} {t : AccountTable}
    (unique : t.Unique key) (p : Row → Bool) : Unique key { t with rows := t.rows.filter p } :=
  fun x hx y hy => unique x (List.mem_filter.mp hx).1 y (List.mem_filter.mp hy).1

theorem Coherent.delete {t : AccountTable} (h : t.Coherent) (id : Int) :
    (t.delete id).2.Coherent := by
  rcases delete_cases t id with ⟨-, he⟩ | ⟨-, he⟩ <;> rw [he]
  · exact h
  · exact {
      sorted := h.sorted.filter _
      numbered := fun x hx => h.numbered x (List.mem_filter.mp hx).1
      uuids := h.uuids.filter _
      usernames := h.usernames.filter _
      playerNames := h.playerNames.filter _
      tokens := h.tokens.filter _
      readable := fun x hx => h.readable x (List.mem_filter.mp hx).1 }

/-- No statement breaks the coherence of a table, whether or not it succeeds. -/
theorem Coherent.run {t : AccountTable} (h : t.Coherent) (stmt : Statement) :
    (stmt.run t).2.Coherent := by
  cases stmt with
  | create new => exact h.create new
  | save a => exact h.save a
  | setSession id token expiresAt => exact h.setSession id token expiresAt
  | clearSession id => exact h.clearSession id
  | delete id => exact h.delete id

end PlayerRegistry.AccountTable
