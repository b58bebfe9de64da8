import PlayerRegistry.Proofs.ConcurrentUpdates

/-!
# Writes that do not disturb each other

A save writes the profile columns of a row, and sessions are written to two other columns. Neither
looks at what the other writes, so the two may change places, whatever they are addressed to and
whether or not they succeed. Of everything that is done to a table only two orders matter: that of
the saves and that of the writes of sessions, each among what creates and deletes accounts.
-/

namespace PlayerRegistry

open AccountTable (Statement)

namespace AccountTable

/-- What a save writes, row by row. A row can be read if its skin model is a known one. -/
def profileColumns (t : AccountTable) : List (Int × ProfileColumns × Bool) :=
  t.rows.map fun x => (x.account.id, x.account.profile, x.readable)

def sessionColumns (t : AccountTable) : List (Int × SessionColumns) :=
  t.rows.map fun x => (x.account.id, x.account.session)

/-- What a save makes of a row. -/
def withProfile (p : ProfileColumns) (x : Row) : Row := ⟨{ x.account with profile := p }, true⟩

/-- What a write of a session makes of a row. -/
def givenSession (c : SessionColumns) (x : Row) : Row :=
  { x with account := { x.account with session := c } }

section
variable {t : AccountTable} {id id' : Int} {f g : Row → Row}

theorem any_modify {p : Row → Bool} (same : ∀ x, p (f x) = p x) :
    (t.modify id f).rows.any p = t.rows.any p := by
  rw [modify, List.any_map]
  refine congrArg t.rows.any (funext fun x => ?_)
  by_cases hx : x.account.id = id
  · simp [hx, same]
  · simp [hx]

theorem modify_comm (fids : ∀ x, (f x).account.id = x.account.id)
    (gids : ∀ x, (g x).account.id = x.account.id) (comm : ∀ x, f (g x) = g (f x)) :
    (t.modify id f).modify id' g = (t.modify id' g).modify id f := by
  simp only [modify, List.map_map]
  refine congrArg (AccountTable.mk · t.lastId) (List.map_congr_left fun x _ => ?_)
  simp only [Function.comp_apply]
  grind

end

def Statement.saves : Statement → Bool
  | save _ => true
  | _ => false

def Statement.writesSession : Statement → Bool
  | setSession .. => true
  | clearSession _ => true
  | _ => false

theorem save_modify (t : AccountTable) (a : Account) (id : Int) (c : SessionColumns) :
    (t.modify id (givenSession c)).save a =
      ((t.save a).1, (t.save a).2.modify id (givenSession c)) := by
  have held : (t.modify id (givenSession c)).holds a.id = t.holds a.id := any_modify fun _ => rfl
  have clash : (t.modify id (givenSession c)).rows.any (fun x =>
      x.account.id ≠ a.id && x.account.profile.playerName = a.profile.playerName) =
      t.rows.any fun x =>
        x.account.id ≠ a.id && x.account.profile.playerName = a.profile.playerName :=
    any_modify fun _ => rfl
  rw [save, save, held, clash]
  split
  · rfl
  · split
    · rfl
    · exact congrArg (Prod.mk _) (modify_comm (fun _ => rfl) (fun _ => rfl) fun _ => rfl)

theorem setSession_modify (t : AccountTable) (id : Int) (p : ProfileColumns) (id' : Int)
    (token : String) (expiresAt : Instant) :
    (t.modify id (withProfile p)).setSession id' token expiresAt =
      ((t.setSession id' token expiresAt).1,
        (t.setSession id' token expiresAt).2.modify id (withProfile p)) := by
  have held : (t.modify id (withProfile p)).holds id' = t.holds id' := any_modify fun _ => rfl
  have clash : (t.modify id (withProfile p)).rows.any (fun x =>
      x.account.id ≠ id' && x.account.session.token = some token) =
      t.rows.any fun x => x.account.id ≠ id' && x.account.session.token = some token :=
    any_modify fun _ => rfl
  rw [setSession, setSession, held, clash]
  split
  · rfl
  · split
    · rfl
    · exact congrArg (Prod.mk _) (modify_comm (fun _ => rfl) (fun _ => rfl) fun _ => rfl)

/-- A save leaves the table alone or writes one profile. -/
theorem table_save (t : AccountTable) (a : Account) :
    (t.save a).2 = t ∨ (t.save a).2 = t.modify a.id (withProfile a.profile) := by
  rcases save_cases t a with ⟨-, he⟩ | ⟨-, -, he⟩ | ⟨-, -, he⟩ <;> rw [he]
  · exact .inl rfl
  · exact .inl rfl
  · exact .inr rfl

/-- A write of a session leaves the table alone or writes one session. -/
theorem table_of_writesSession {stmt : Statement} (writes : stmt.writesSession = true)
    (t : AccountTable) :
    (stmt.run t).2 = t ∨ ∃ id c, (stmt.run t).2 = t.modify id (givenSession c) := by
  cases stmt with
  | setSession id token expiresAt =>
    rw [Statement.run]
    rcases setSession_cases t id token expiresAt with ⟨-, he⟩ | ⟨-, -, he⟩ | ⟨-, -, he⟩ <;> rw [he]
    · exact .inl rfl
    · exact .inl rfl
    · exact .inr ⟨id, _, rfl⟩
  | clearSession id => exact .inr ⟨id, _, rfl⟩
  | _ => cases writes

theorem run_modify_of_writesSession {stmt : Statement} (writes : stmt.writesSession = true)
    (t : AccountTable) (id : Int) (p : ProfileColumns) :
    stmt.run (t.modify id (withProfile p)) =
      ((stmt.run t).1, (stmt.run t).2.modify id (withProfile p)) := by
  cases stmt with
  | setSession id' token expiresAt => exact setSession_modify t id p id' token expiresAt
  | clearSession id' =>
    exact congrArg (Prod.mk _) (modify_comm (fun _ => rfl) (fun _ => rfl) fun _ => rfl)
  | _ => cases writes

/-- In either order each of the two comes to the same, and they leave the same table. -/
structure Commute (t : AccountTable) (stmt stmt' : Statement) : Prop where
  first : (stmt.run (stmt'.run t).2).1 = (stmt.run t).1
  second : (stmt'.run (stmt.run t).2).1 = (stmt'.run t).1
  table : (stmt'.run (stmt.run t).2).2 = (stmt.run (stmt'.run t).2).2

theorem Commute.symm {t : AccountTable} {stmt stmt' : Statement} (h : t.Commute stmt stmt') :
    t.Commute stmt' stmt :=
  ⟨h.second, h.first, h.table.symm⟩

/-- A save commutes with a write of a session, whatever the table and whatever they are for. -/
theorem commute_save (t : AccountTable) (a : Account) {stmt : Statement}
    (writes : stmt.writesSession = true) : t.Commute (.save a) stmt := by
  have after : ∀ id c, (Statement.save a).run (t.modify id (givenSession c)) =
      ((t.save a).1, (t.save a).2.modify id (givenSession c)) := save_modify t a
  have later := run_modify_of_writesSession writes t a.id a.profile
  have saved : (Statement.save a).run t = t.save a := rfl
  rcases table_save t a with kept | changed <;>
    rcases table_of_writesSession writes t with same | ⟨id, c, written⟩
  · exact ⟨by rw [same], by rw [saved, kept], by rw [same, saved, kept, same]⟩
  · refine ⟨by rw [written, after, saved], by rw [saved, kept], ?_⟩
    rw [written, after, saved, kept, written]
  · refine ⟨by rw [same], by rw [saved, changed, later], ?_⟩
    rw [same, saved, changed, later, same]
  · refine ⟨by rw [written, after, saved], by rw [saved, changed, later], ?_⟩
    rw [written, after, saved, changed, later, written]
    exact modify_comm (fun _ => rfl) (fun _ => rfl) fun _ => rfl

/-- Statements in turn: what each comes to, and the table that they leave. -/
def Statement.runAll : List Statement → AccountTable → List (Statement × Result Unit) × AccountTable
  | [], t => ([], t)
  | stmt :: rest, t =>
    ((stmt, (stmt.run t).1) :: (runAll rest (stmt.run t).2).1, (runAll rest (stmt.run t).2).2)

open Statement (runAll)

theorem runAll_append (stmts rest : List Statement) (t : AccountTable) :
    runAll (stmts ++ rest) t =
      ((runAll stmts t).1 ++ (runAll rest (runAll stmts t).2).1,
        (runAll rest (runAll stmts t).2).2) := by
  induction stmts generalizing t with
  | nil => rfl
  | cons stmt stmts ih =>
    rw [List.cons_append, runAll, ih]
    rfl

theorem map_fst_runAll (stmts : List Statement) (t : AccountTable) :
    (runAll stmts t).1.map Prod.fst = stmts := by
  induction stmts generalizing t with
  | nil => rfl
  | cons stmt stmts ih => exact congrArg (stmt :: ·) (ih _)

/-- The two lists differ at most in how saves and writes of sessions stand to each other: each kind
is in the same order, among what creates and deletes accounts. -/
structure SameOrders {α : Type} (statement : α → Statement) (xs ys : List α) : Prop where
  profiles : xs.filter (fun x => !(statement x).writesSession) =
    ys.filter fun x => !(statement x).writesSession
  sessions : xs.filter (fun x => !(statement x).saves) = ys.filter fun x => !(statement x).saves

/-- One of the two saves and the other writes a session. -/
def Apart (stmt stmt' : Statement) : Prop :=
  stmt.saves = true ∧ stmt'.writesSession = true ∨ stmt.writesSession = true ∧ stmt'.saves = true

theorem not_saves_of_writesSession {stmt : Statement} (writes : stmt.writesSession = true) :
    stmt.saves = false := by
  cases stmt with
  | save a => cases writes
  | _ => rfl

theorem Apart.commute {stmt stmt' : Statement} (h : Apart stmt stmt') (t : AccountTable) :
    t.Commute stmt stmt' := by
  rcases h with ⟨saves, writes⟩ | ⟨writes, saves⟩
  · cases stmt with
    | save a => exact t.commute_save a writes
    | _ => cases saves
  · cases stmt' with
    | save a => exact (t.commute_save a writes).symm
    | _ => cases saves

section
variable {α : Type} {statement : α → Statement} {xs ys zs : List α}

theorem SameOrders.refl (statement : α → Statement) (xs : List α) :
    SameOrders statement xs xs := ⟨rfl, rfl⟩

theorem SameOrders.trans (h : SameOrders statement xs ys) (h' : SameOrders statement ys zs) :
    SameOrders statement xs zs :=
  ⟨h.profiles.trans h'.profiles, h.sessions.trans h'.sessions⟩

theorem SameOrders.cons (h : SameOrders statement xs ys) (x : α) :
    SameOrders statement (x :: xs) (x :: ys) := by
  constructor
  · rw [List.filter_cons, List.filter_cons, h.profiles]
  · rw [List.filter_cons, List.filter_cons, h.sessions]

theorem SameOrders.eq_nil (h : SameOrders statement [] ys) : ys = [] := by
  cases ys with
  | nil => rfl
  | cons y ys =>
    have writes := List.filter_eq_nil_iff.mp h.profiles.symm y List.mem_cons_self
    have saves := List.filter_eq_nil_iff.mp h.sessions.symm y List.mem_cons_self
    simp only [Bool.not_eq_true, Bool.not_eq_false'] at writes saves
    rw [not_saves_of_writesSession writes] at saves
    cases saves

/-- What stands first in one list can be brought to the front of the other, past nothing but what
is apart from it. -/
theorem SameOrders.bring {x : α} (h : SameOrders statement (x :: xs) ys) :
    ∃ front back, ys = front ++ x :: back ∧ (∀ y ∈ front, Apart (statement x) (statement y)) ∧
      SameOrders statement xs (front ++ back) := by
  obtain ⟨profiles, sessions⟩ := h
  by_cases writes : (statement x).writesSession = true
  · have leaves := not_saves_of_writesSession writes
    rw [List.filter_cons_of_pos (by simp [leaves])] at sessions
    rw [List.filter_cons_of_neg (by simp [writes])] at profiles
    obtain ⟨front, back, rfl, saves, -, rest⟩ := List.filter_eq_cons_iff.mp sessions.symm
    simp only [Bool.not_eq_true, Bool.not_eq_false'] at saves
    refine ⟨front, back, rfl, fun y hy => .inr ⟨writes, saves y hy⟩, ?_, ?_⟩
    · simpa [List.filter_append, writes] using profiles
    · have none : front.filter (fun y => !(statement y).saves) = [] := by simpa using saves
      rw [List.filter_append, none, List.nil_append, rest]
  · rw [List.filter_cons_of_pos (by simpa using writes)] at profiles
    obtain ⟨front, back, rfl, written, -, rest⟩ := List.filter_eq_cons_iff.mp profiles.symm
    simp only [Bool.not_eq_true, Bool.not_eq_false'] at written
    have none : front.filter (fun y => !(statement y).writesSession) = [] := by simpa using written
    have after : xs.filter (fun y => !(statement y).writesSession) =
        (front ++ back).filter fun y => !(statement y).writesSession := by
      rw [List.filter_append, none, List.nil_append, rest]
    by_cases saves : (statement x).saves = true
    · refine ⟨front, back, rfl, fun y hy => .inl ⟨saves, written y hy⟩, after, ?_⟩
      simpa [List.filter_append, saves] using sessions
    · -- What creates or deletes an account stands first in both orders.
      cases front with
      | nil =>
        refine ⟨[], back, rfl, by simp, after, ?_⟩
        simpa [saves] using sessions
      | cons y front =>
        have wrote := written y List.mem_cons_self
        have first : x = y := by
          simpa [saves, not_saves_of_writesSession wrote] using congrArg List.head? sessions
        exact absurd (first ▸ wrote) writes

theorem SameOrders.swap {x y : α} (apart : Apart (statement x) (statement y)) (xs : List α) :
    SameOrders statement (x :: y :: xs) (y :: x :: xs) := by
  rcases apart with ⟨saves, writes⟩ | ⟨writes, saves⟩
  · have leaves := not_saves_of_writesSession writes
    constructor
    · simp [List.filter_cons, writes]
    · simp [saves, leaves]
  · have leaves := not_saves_of_writesSession writes
    constructor
    · simp [List.filter_cons, writes]
    · simp [saves, leaves]

theorem SameOrders.move {x : α} {front : List α}
    (apart : ∀ y ∈ front, Apart (statement x) (statement y)) (back : List α) :
    SameOrders statement (x :: (front ++ back)) (front ++ x :: back) := by
  induction front with
  | nil => exact .refl _ _
  | cons y front ih =>
    have swapped := SameOrders.swap (apart y List.mem_cons_self) (front ++ back)
    have moved := ih fun z hz => apart z (List.mem_cons_of_mem y hz)
    exact swapped.trans (moved.cons y)

end

/-- A statement may be carried out before those that are apart from it. -/
theorem runAll_bring {stmt : Statement} {front : List Statement}
    (apart : ∀ other ∈ front, Apart stmt other) (t : AccountTable) :
    (runAll front (stmt.run t).2).1 = (runAll front t).1 ∧
      (stmt.run (runAll front t).2).1 = (stmt.run t).1 ∧
      (runAll front (stmt.run t).2).2 = (stmt.run (runAll front t).2).2 := by
  induction front generalizing t with
  | nil => exact ⟨rfl, rfl, rfl⟩
  | cons other front ih =>
    obtain ⟨first, second, table⟩ := (apart other List.mem_cons_self).commute t
    obtain ⟨outcomes, own, left⟩ :=
      ih (fun other h => apart other (List.mem_cons_of_mem _ h)) (other.run t).2
    rw [runAll, runAll, second, table, outcomes]
    exact ⟨rfl, own.trans first, left⟩

/-- As long as both orders are kept, every statement comes to the same, and the table at the end is
the same. -/
theorem SameOrders.runAll {stmts stmts' : List Statement} (h : SameOrders id stmts stmts')
    (t : AccountTable) : (runAll stmts t).2 = (runAll stmts' t).2 ∧
      SameOrders Prod.fst (runAll stmts t).1 (runAll stmts' t).1 := by
  induction stmts generalizing stmts' t with
  | nil =>
    rw [h.eq_nil]
    exact ⟨rfl, .refl _ _⟩
  | cons stmt stmts ih =>
    obtain ⟨front, back, rfl, apart, rest⟩ := h.bring
    have apart : ∀ other ∈ front, Apart stmt other := apart
    obtain ⟨table, outcomes⟩ := ih rest (stmt.run t).2
    obtain ⟨others, own, left⟩ := runAll_bring apart t
    rw [runAll_append, left] at table outcomes
    rw [others] at outcomes
    rw [runAll_append, Statement.runAll, Statement.runAll, own]
    refine ⟨table, (outcomes.cons _).trans (.move ?_ _)⟩
    intro outcome member
    have there := List.mem_map_of_mem (f := Prod.fst) member
    rw [map_fst_runAll] at there
    exact apart _ there

theorem map_modify {β : Type} {t : AccountTable} {id : Int} {f : Row → Row} {g : Row → β}
    (same : ∀ x, g (f x) = g x) : (t.modify id f).rows.map g = t.rows.map g := by
  rw [modify, List.map_map]
  refine List.map_congr_left fun x _ => ?_
  by_cases hx : x.account.id = id
  · simp [hx, same]
  · simp [hx]

theorem sessionColumns_save (t : AccountTable) (a : Account) :
    (t.save a).2.sessionColumns = t.sessionColumns := by
  rcases table_save t a with same | changed
  · rw [same]
  · rw [changed]
    exact map_modify fun _ => rfl

theorem profileColumns_of_writesSession {stmt : Statement} (writes : stmt.writesSession = true)
    (t : AccountTable) : (stmt.run t).2.profileColumns = t.profileColumns := by
  rcases table_of_writesSession writes t with same | ⟨id, c, written⟩
  · rw [same]
  · rw [written]
    exact map_modify fun _ => rfl

theorem sessionColumns_runAll {stmts : List Statement} (saves : ∀ stmt ∈ stmts, stmt.saves = true)
    (t : AccountTable) : (runAll stmts t).2.sessionColumns = t.sessionColumns := by
  induction stmts generalizing t with
  | nil => rfl
  | cons stmt stmts ih =>
    have rest := ih (fun stmt h => saves stmt (List.mem_cons_of_mem _ h)) (stmt.run t).2
    have first := saves stmt List.mem_cons_self
    cases stmt with
    | save a => exact rest.trans (t.sessionColumns_save a)
    | _ => cases first

theorem profileColumns_runAll {stmts : List Statement}
    (writes : ∀ stmt ∈ stmts, stmt.writesSession = true) (t : AccountTable) :
    (runAll stmts t).2.profileColumns = t.profileColumns := by
  induction stmts generalizing t with
  | nil => rfl
  | cons stmt stmts ih =>
    have rest := ih (fun stmt h => writes stmt (List.mem_cons_of_mem _ h)) (stmt.run t).2
    exact rest.trans (profileColumns_of_writesSession (writes stmt List.mem_cons_self) t)

/-- The statement saves or writes a session: it adds and removes no account. -/
def Statement.KeepsAccounts (stmt : Statement) : Prop :=
  stmt.saves = true ∨ stmt.writesSession = true

theorem saves_eq {stmt : Statement} (keeps : stmt.KeepsAccounts) :
    stmt.saves = !stmt.writesSession := by
  rcases keeps with saves | writes
  · cases stmt with
    | save a => rfl
    | _ => cases saves
  · rw [writes, not_saves_of_writesSession writes]
    rfl

/-- Where accounts are only changed, the saves may come first, or the writes of sessions. -/
theorem sameOrders_parts {stmts : List Statement} (keep : ∀ stmt ∈ stmts, stmt.KeepsAccounts) :
    SameOrders id stmts
        (stmts.filter Statement.saves ++ stmts.filter Statement.writesSession) ∧
      SameOrders id stmts
        (stmts.filter Statement.writesSession ++ stmts.filter Statement.saves) := by
  have profiles : stmts.filter (fun stmt => !stmt.writesSession) = stmts.filter Statement.saves :=
    List.filter_congr fun stmt h => (saves_eq (keep stmt h)).symm
  have sessions : stmts.filter (fun stmt => !stmt.saves) = stmts.filter Statement.writesSession :=
    List.filter_congr fun stmt h => by rw [saves_eq (keep stmt h), Bool.not_not]
  have noneSaved : (stmts.filter Statement.saves).filter (fun stmt => !stmt.saves) = [] := by simp
  have noneWritten : (stmts.filter Statement.writesSession).filter
      (fun stmt => !stmt.writesSession) = [] := by simp
  have saved : (stmts.filter Statement.saves).filter (fun stmt => !stmt.writesSession) =
      stmts.filter Statement.saves := by
    rw [← profiles, List.filter_filter]
    simp
  have written : (stmts.filter Statement.writesSession).filter (fun stmt => !stmt.saves) =
      stmts.filter Statement.writesSession := by
    rw [← sessions, List.filter_filter]
    simp
  constructor
  · constructor
    · simp only [id, List.filter_append, saved, noneWritten, List.append_nil, profiles]
    · simp only [id, List.filter_append, written, noneSaved, List.nil_append, sessions]
  · constructor
    · simp only [id, List.filter_append, saved, noneWritten, List.nil_append, profiles]
    · simp only [id, List.filter_append, written, noneSaved, List.append_nil, sessions]

/-- Where accounts are only changed, the profiles are what the saves alone make of them, and the
sessions what is written to them. -/
theorem columns_runAll {stmts : List Statement} (keep : ∀ stmt ∈ stmts, stmt.KeepsAccounts)
    (t : AccountTable) :
    (runAll stmts t).2.profileColumns =
        (runAll (stmts.filter Statement.saves) t).2.profileColumns ∧
      (runAll stmts t).2.sessionColumns =
        (runAll (stmts.filter Statement.writesSession) t).2.sessionColumns := by
  obtain ⟨savesFirst, writesFirst⟩ := sameOrders_parts keep
  constructor
  · rw [(savesFirst.runAll t).1, runAll_append]
    exact profileColumns_runAll (fun stmt h => (List.mem_filter.mp h).2) _
  · rw [(writesFirst.runAll t).1, runAll_append]
    exact sessionColumns_runAll (fun stmt h => (List.mem_filter.mp h).2) _

end AccountTable

open AccountTable (SameOrders)
open AccountTable.Statement (KeepsAccounts runAll)

theorem AccountTable.Statement.KeepsAccounts.length_rows {stmt : Statement}
    (keeps : stmt.KeepsAccounts) (t : AccountTable) :
    (stmt.run t).2.rows.length = t.rows.length := by
  rcases keeps with saves | writes
  · cases stmt with
    | save a =>
      have columns := congrArg List.length (t.sessionColumns_save a)
      simpa [sessionColumns, run] using columns
    | _ => cases saves
  · have columns := congrArg List.length (profileColumns_of_writesSession writes t)
    simpa [profileColumns] using columns

/-- What adds or removes an account is not what a step does that keeps the accounts. -/
theorem Work.keepsAccounts_of_performs {update : Registry → Registry} {stmt : Statement}
    (steps : Statements KeepsAccounts update) (performs : Performs stmt update) :
    stmt.KeepsAccounts := by
  have length : ∀ t : AccountTable, (stmt.run t).2.rows.length = t.rows.length := by
    intro t
    have performed := performs { Registry.empty with accounts := t }
    rcases steps with quiet | ⟨stmt', keeps, performs'⟩
    · rw [← performed, quiet]
    · rw [← performed, performs']
      exact keeps.length_rows t
  cases stmt with
  | create new => cases length .empty
  | save a => exact .inl rfl
  | setSession => exact .inr rfl
  | clearSession => exact .inr rfl
  | delete id =>
    have removed := length ⟨[⟨{ (default : Account) with id }, true⟩], 0⟩
    simp [Statement.run, AccountTable.delete, AccountTable.holds] at removed

/-- Updates, logins that make no account, and logouts. -/
def Operation.SavesOrSigns (s : Scene) : Operation → Prop
  | register _ => False
  | login q => s.isAnonymous q = false
  | delete _ => False
  | _ => True

theorem Operation.SavesOrSigns.keepsAccounts {s : Scene} {op : Operation} (h : op.SavesOrSigns s)
    {stmt : Statement} (issued : op.Issues s stmt) : stmt.KeepsAccounts := by
  cases op with
  | register q => exact h.elim
  | login q =>
    cases stmt with
    | create new =>
      obtain ⟨-, anonymous, -⟩ := issued
      rw [SavesOrSigns, anonymous] at h
      cases h
    | setSession => exact .inr rfl
    | _ => exact issued.elim
  | delete a => exact h.elim
  | setSession id token expiresAt =>
    rw [(issued : stmt = _)]
    exact .inr rfl
  | clearSession id =>
    rw [(issued : stmt = _)]
    exact .inr rfl
  | update a q =>
    cases stmt with
    | save b => exact .inl rfl
    | _ => exact issued.elim
  | _ =>
    cases stmt with
    | setSession => exact .inr rfl
    | clearSession => exact .inr rfl
    | _ => exact issued.elim

namespace Run

/-- The statements of a run, in the order in which they were carried out. -/
def statements (x : Run) : List Statement := x.transcript.reverse.map Entry.statement

variable {admits : Run → Scene → Operation → Prop} {x y : Run}

/-- The table is what the statements since an earlier state have made of it. -/
theorem Later.statements (later : Later admits x y) :
    ∃ stmts, y.statements = x.statements ++ stmts ∧
      y.registry.accounts = (runAll stmts x.registry.accounts).2 := by
  induction later with
  | refl => exact ⟨[], (List.append_nil _).symm, rfl⟩
  | tail _ next ih =>
    obtain ⟨stmts, since, accounts⟩ := ih
    cases next with
    | begin => exact ⟨stmts, since, accounts⟩
    | @quiet _ r update _ _ _ quiet => exact ⟨stmts, since, (quiet r).trans accounts⟩
    | @statement transcript r update _ _ _ stmt performs =>
      refine ⟨stmts ++ [stmt], ?_, ?_⟩
      · rw [← List.append_assoc, ← since]
        simp [Run.statements]
      · have accounts : r.accounts = (runAll stmts x.registry.accounts).2 := accounts
        rw [AccountTable.runAll_append, ← accounts]
        exact performs r

/-- While there are only updates, logins that make no account, and logouts, no statement adds or
removes an account. -/
theorem Later.keepsAccounts (later : Later admits x y) (works : Left KeepsAccounts x.works)
    (admitted : ∀ x s op, admits x s op → op.SavesOrSigns s) :
    Left KeepsAccounts y.works ∧
      ∃ stmts, y.statements = x.statements ++ stmts ∧ ∀ stmt ∈ stmts, stmt.KeepsAccounts := by
  induction later with
  | refl => exact ⟨works, [], (List.append_nil _).symm, by simp⟩
  | tail _ next ih =>
    obtain ⟨works, stmts, since, keep⟩ := ih
    cases next with
    | @begin z s op admitted' =>
      refine ⟨works.begin ((op.within_work s).mono ?_ fun _ h => h), stmts, since, keep⟩
      exact fun _ h => h.mono fun _ => (admitted _ s op admitted').keepsAccounts
    | @quiet _ r => exact ⟨(works.step r).2, stmts, since, keep⟩
    | @statement transcript r update _ _ _ stmt performs =>
      obtain ⟨steps, rest⟩ := works.step r
      refine ⟨rest, stmts ++ [stmt], ?_, ?_⟩
      · rw [← List.append_assoc, ← since]
        simp [Run.statements]
      · intro stmt' h
        rcases List.mem_append.mp h with h | h
        · exact keep stmt' h
        · rw [List.mem_singleton.mp h]
          exact Work.keepsAccounts_of_performs steps performs

/-- A step after which every row has the session that it had. -/
def KeepsSessions (update : Registry → Registry) : Prop :=
  ∀ r, (update r).accounts.sessionColumns = r.accounts.sessionColumns

/-- No step of an update touches a session, however old the account is that the update has seen. -/
theorem within_keepsSessions (u : ProfileUpdate) : u.flow.Within KeepsSessions fun _ => True := by
  apply (u.scene.until_updateProfile u.seen u.request).within
  · exact fun update quiet r => by rw [quiet r]
  · intro f ends
    cases ends with
    | failed e => trivial
    | @save b updates =>
      rw [Scene.run_save]
      exact ⟨fun r => r.accounts.sessionColumns_save b, fun _ => trivial⟩

/-- A save and a write of a session come to the same in either order, in any table and whatever
they are for. So in any part of any run it is enough to know the order of the saves and that of the
writes of sessions, each among what adds and removes accounts. As long as there are only updates,
logins that make no account, and logouts, the profiles follow from the saves alone and the sessions
from the writes of sessions alone; an update, however old what it has seen, changes no session. -/
theorem saves_apart_from_sessions :
    (∀ (t : AccountTable) (a : Account) (stmt : Statement), stmt.writesSession = true →
      t.Commute (.save a) stmt) ∧
    (∀ u : ProfileUpdate, u.flow.Within KeepsSessions fun _ => True) ∧
    (∀ (admits : Run → Scene → Operation → Prop) (x y : Run), Later admits x y →
      ∃ stmts, y.statements = x.statements ++ stmts ∧
        (∀ (y' : Run) (stmts' : List Statement), Later admits x y' →
          y'.statements = x.statements ++ stmts' → SameOrders id stmts stmts' →
          y'.registry.accounts = y.registry.accounts ∧
            SameOrders Prod.fst (runAll stmts x.registry.accounts).1
              (runAll stmts' x.registry.accounts).1) ∧
        ((∀ stmt ∈ stmts, stmt.KeepsAccounts) →
          y.registry.accounts.profileColumns =
            (runAll (stmts.filter Statement.saves) x.registry.accounts).2.profileColumns ∧
          y.registry.accounts.sessionColumns =
            (runAll (stmts.filter Statement.writesSession) x.registry.accounts).2.sessionColumns) ∧
        (Left KeepsAccounts x.works → (∀ x s op, admits x s op → op.SavesOrSigns s) →
          ∀ stmt ∈ stmts, stmt.KeepsAccounts)) := by
  refine ⟨AccountTable.commute_save, within_keepsSessions, ?_⟩
  intro admits x y later
  obtain ⟨stmts, since, accounts⟩ := later.statements
  refine ⟨stmts, since, ?_, ?_, ?_⟩
  · intro y' stmts' later' since' same
    obtain ⟨stmts'', since'', accounts'⟩ := later'.statements
    obtain rfl : stmts' = stmts'' := List.append_cancel_left (since'.symm.trans since'')
    obtain ⟨table, outcomes⟩ := same.runAll x.registry.accounts
    exact ⟨by rw [accounts, accounts', table], outcomes⟩
  · intro keep
    rw [accounts]
    exact AccountTable.columns_runAll keep _
  · intro works admitted
    obtain ⟨-, stmts', since', keep⟩ := later.keepsAccounts works admitted
    obtain rfl : stmts = stmts' := List.append_cancel_left (since.symm.trans since')
    exact keep

/-- Alice changes her name, and logs out meanwhile. -/
def aliceLeaves : Run where
  transcript := []
  registry := Alice.registry
  works := [ExceptT.run ((Operation.update Alice.account Alice.newName).work .plain),
    ExceptT.run ((Operation.logout Alice.account).work .plain)]

/-- Alice under her new name and without a session. -/
def aliceLeft : AccountTable := ⟨[⟨{ Alice.renamed with session := ⟨none, none⟩ }, true⟩], 1⟩

/-- A run after which nothing of `aliceLeaves` is left to do. -/
def aliceDone (transcript : List Entry) : Run :=
  ⟨transcript, { Alice.registry with accounts := aliceLeft }, [.done (.ok ()), .done (.ok ())]⟩

def renameFirst : List Entry :=
  [⟨.clearSession 1, Alice.afterNewName.accounts⟩, ⟨.save Alice.renamed, Alice.registry.accounts⟩]

def farewellFirst : List Entry :=
  [⟨.save Alice.renamed, Alice.registry.accounts.clearSession 1⟩,
    ⟨.clearSession 1, Alice.registry.accounts⟩]

theorem later_renameFirst :
    Later (fun _ s op => op.SavesOrSigns s) aliceLeaves (aliceDone renameFirst) := by
  have renamed : Later (fun _ s op => op.SavesOrSigns s) aliceLeaves
      ⟨[⟨.save Alice.renamed, Alice.registry.accounts⟩], Alice.afterNewName,
        [.done (.ok ()), ExceptT.run ((Operation.logout Alice.account).work .plain)]⟩ :=
    .single (.statement [] [_] (.save Alice.renamed) fun _ => rfl)
  exact renamed.tail (.statement [.done (.ok ())] [] (.clearSession 1) fun _ => rfl)

theorem later_farewellFirst :
    Later (fun _ s op => op.SavesOrSigns s) aliceLeaves (aliceDone farewellFirst) := by
  have farewell : Later (fun _ s op => op.SavesOrSigns s) aliceLeaves
      ⟨[⟨.clearSession 1, Alice.registry.accounts⟩],
        { Alice.registry with accounts := Alice.registry.accounts.clearSession 1 },
        [ExceptT.run ((Operation.update Alice.account Alice.newName).work .plain),
          .done (.ok ())]⟩ :=
    .single (.statement [_] [] (.clearSession 1) fun _ => rfl)
  exact farewell.tail (.statement [] [.done (.ok ())] (.save Alice.renamed) fun _ => rfl)

theorem left_aliceLeaves : Left KeepsAccounts aliceLeaves.works := by
  have own : ∀ op : Operation, op.SavesOrSigns .plain →
      Work.Within (Work.Statements KeepsAccounts) (fun _ => True) (op.work .plain) := by
    intro op signs
    refine (op.within_work .plain).mono (fun _ h => ?_) fun _ h => h
    exact h.mono fun _ => signs.keepsAccounts
  have none : Left KeepsAccounts [] := by simp [Left]
  exact (none.begin (own (.logout Alice.account) trivial)).begin
    (own (.update Alice.account Alice.newName) trivial)

/-- Whichever comes first, Alice ends with her new name and without a session. -/
theorem alice_leaves_renamed :
    Alice.registry.accounts.Commute (.save Alice.renamed) (.clearSession 1) ∧
    (aliceDone renameFirst).registry.accounts = (aliceDone farewellFirst).registry.accounts ∧
    aliceLeft.profileColumns =
      (runAll [.save Alice.renamed] Alice.registry.accounts).2.profileColumns ∧
    aliceLeft.sessionColumns =
      (runAll [.clearSession 1] Alice.registry.accounts).2.sessionColumns := by
  obtain ⟨commute, -, runs⟩ := saves_apart_from_sessions
  obtain ⟨stmts, since, orders, columns, keep⟩ := runs _ _ _ later_renameFirst
  obtain rfl : stmts = [.save Alice.renamed, .clearSession 1] := since.symm
  have other : (aliceDone farewellFirst).statements =
      aliceLeaves.statements ++ [.clearSession 1, .save Alice.renamed] := rfl
  obtain ⟨same, -⟩ := orders _ _ later_farewellFirst other ⟨rfl, rfl⟩
  have signs : ∀ x s op, (fun _ s op => op.SavesOrSigns s : Run → Scene → Operation → Prop) x s op →
      op.SavesOrSigns s := fun _ _ _ h => h
  obtain ⟨profiles, sessions⟩ := columns (keep left_aliceLeaves signs)
  exact ⟨commute _ _ _ rfl, same.symm, profiles, sessions⟩

end Run

end PlayerRegistry
