import PlayerRegistry.Proofs.Runs

/-!
# What holds of every stored account

A condition on accounts holds of all that are ever stored if no operation writes anything that
breaks it. What an update has seen of its account was stored at some time, so that the condition
held of it too.
-/

namespace PlayerRegistry

open AccountTable (Statement)

namespace AccountTable

/-- The statement writes nothing that breaks the condition. -/
def Statement.Preserves (P : Account → Prop) : Statement → Prop
  | create new => ∀ id, P (NewAccount.toAccount new id)
  | save a => ∀ b, P b → P { b with profile := a.profile }
  | setSession _ token expiresAt =>
    ∀ b, P b → P { b with session := ⟨some token, some expiresAt⟩ }
  | clearSession _ => ∀ b, P b → P { b with session := ⟨none, none⟩ }
  | delete _ => True

/-- The condition holds of every account in the table. -/
def All (P : Account → Prop) (t : AccountTable) : Prop := ∀ x ∈ t.rows, P x.account

theorem All.modify {P : Account → Prop} {t : AccountTable} (h : t.All P) {id : Int}
    {f : Row → Row} (keeps : ∀ x, P x.account → P (f x).account) : (t.modify id f).All P := by
  intro x' hx'
  obtain ⟨x, hx, rfl⟩ := mem_modify.mp hx'
  split
  · exact keeps x (h x hx)
  · exact h x hx

theorem All.run {P : Account → Prop} {t : AccountTable} (h : t.All P) {stmt : Statement}
    (preserves : stmt.Preserves P) : (stmt.run t).2.All P := by
  cases stmt with
  | create new =>
    rcases create_cases t new with ⟨-, he⟩ | ⟨-, he⟩ <;> simp only [Statement.run, he]
    · exact h
    · intro x hx
      rcases List.mem_append.mp hx with hx | hx
      · exact h x hx
      · rw [List.mem_singleton.mp hx]
        exact preserves _
  | save a =>
    rcases save_cases t a with ⟨-, he⟩ | ⟨-, -, he⟩ | ⟨-, -, he⟩ <;> simp only [Statement.run, he]
    · exact h
    · exact h
    · exact h.modify fun x => preserves x.account
  | setSession id token expiresAt =>
    rcases setSession_cases t id token expiresAt with ⟨-, he⟩ | ⟨-, -, he⟩ | ⟨-, -, he⟩ <;>
      simp only [Statement.run, he]
    · exact h
    · exact h
    · exact h.modify fun x => preserves x.account
  | clearSession id => exact h.modify fun x => preserves x.account
  | delete id =>
    rcases delete_cases t id with ⟨-, he⟩ | ⟨-, he⟩ <;> simp only [Statement.run, he]
    · exact h
    · exact fun x hx => h x (List.mem_filter.mp hx).1

end AccountTable

namespace Run

/-- An account was stored at some time with this id and this profile. -/
def Stored (x : Run) (a : Account) : Prop :=
  ∃ t ∈ x.tables, ∃ row ∈ t.rows, row.account.id = a.id ∧ row.account.profile = a.profile

/-- The condition has held of every account at every time. -/
def AlwaysAll (P : Account → Prop) (x : Run) : Prop := ∀ t ∈ x.tables, t.All P

/-- The condition has held so far, and nothing that is still to be written breaks it. -/
structure Upholds (P : Account → Prop) (x : Run) : Prop where
  tables : x.AlwaysAll P
  works : Left (Statement.Preserves P) x.works

variable {admits : Run → Scene → Operation → Prop} {P : Account → Prop} {x y : Run}

theorem Upholds.next (h : x.Upholds P) (next : Next admits x y)
    (preserves : ∀ s op, admits x s op → x.AlwaysAll P →
      ∀ stmt, op.Issues s stmt → stmt.Preserves P) : y.Upholds P := by
  cases next with
  | begin s op admitted =>
    refine ⟨h.tables, h.works.begin ((op.within_work s).mono ?_ fun _ h => h)⟩
    intro update statements
    exact statements.mono (preserves s op admitted h.tables)
  | @quiet transcript r update _ before after quiet =>
    refine ⟨?_, (h.works.step r).2⟩
    intro t ht
    rcases List.mem_cons.mp ht with rfl | ht
    · change (update r).accounts.All P
      rw [quiet r]
      exact h.tables _ List.mem_cons_self
    · exact h.tables t (List.mem_cons_of_mem _ ht)
  | @statement transcript r update _ before after =>
    -- The statement on the transcript may be any that does the same as the one that was meant.
    have found : r.accounts.All P := h.tables _ List.mem_cons_self
    obtain ⟨step, works⟩ := h.works.step r
    refine ⟨?_, works⟩
    intro t ht
    rcases List.mem_cons.mp ht with rfl | ht
    · change (update r).accounts.All P
      rcases step with quiet | ⟨stmt, preserves, performs⟩
      · rw [quiet r]
        exact found
      · rw [performs r]
        exact found.run preserves
    · exact h.tables t ht

/-- A condition holds of all accounts at all times if no operation that may begin breaks it. -/
theorem Reached.alwaysAll (h : Reached admits x)
    (preserves : ∀ x s op, admits x s op → x.AlwaysAll P →
      ∀ stmt, op.Issues s stmt → stmt.Preserves P) : x.AlwaysAll P := by
  suffices upholds : x.Upholds P from upholds.tables
  induction h with
  | refl =>
    refine ⟨?_, by simp [Left, start]⟩
    intro t ht
    have : t = .empty := by simpa [tables, start, Registry.empty] using ht
    subst this
    simp [AccountTable.All, AccountTable.empty]
  | @tail x y _ next ih => exact ih.next next (preserves x)

theorem AlwaysAll.now (h : x.AlwaysAll P) : x.registry.accounts.All P := h _ List.mem_cons_self

/-- What held of all accounts held of what was once seen of one. -/
theorem AlwaysAll.of_stored {Q : ProfileColumns → Prop} (h : x.AlwaysAll P)
    (profile : ∀ a, P a → Q a.profile) {a : Account} (stored : x.Stored a) : Q a.profile := by
  obtain ⟨t, ht, row, hrow, -, same⟩ := stored
  exact same ▸ profile _ (h t ht row hrow)

end Run

end PlayerRegistry
