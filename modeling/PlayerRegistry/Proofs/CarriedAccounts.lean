import PlayerRegistry.Proofs.LoginDecision

/-!
# Accounts from one operation to the next

Operations that follow one another, each on the accounts as they are. Only an update changes the
profile of an account; every other operation carries accounts over with their names, passwords and
textures, and at most adds one.
-/

namespace PlayerRegistry

open AccountTable (Statement)

namespace AccountTable

/-- Accounts keep their username and profile, and those of new accounts are as `N` says. -/
structure Carries (N : String → ProfileColumns → Prop) (t t' : AccountTable) : Prop where
  ids : t.lastId ≤ t'.lastId
  rows : ∀ y ∈ t'.rows,
    (∃ x ∈ t.rows, x.account.id = y.account.id ∧ x.account.username = y.account.username ∧
      x.account.profile = y.account.profile) ∨
    ((t.lastId : Int) < y.account.id ∧ N y.account.username y.account.profile)

variable {N : String → ProfileColumns → Prop}

theorem Carries.refl (t : AccountTable) : t.Carries N t :=
  ⟨Nat.le_refl _, fun y hy => .inl ⟨y, hy, rfl, rfl, rfl⟩⟩

theorem Carries.trans {t u v : AccountTable} (h : t.Carries N u) (h' : u.Carries N v) :
    t.Carries N v := by
  refine ⟨Nat.le_trans h.ids h'.ids, fun z hz => ?_⟩
  rcases h'.rows z hz with ⟨y, hy, sameId, sameName, same⟩ | ⟨above, new⟩
  · rw [← sameId, ← sameName, ← same]
    exact h.rows y hy
  · have ids := h.ids
    exact .inr ⟨by omega, new⟩

theorem carries_modify (t : AccountTable) (id : Int) {f : Row → Row}
    (ids : ∀ x, (f x).account.id = x.account.id)
    (usernames : ∀ x, (f x).account.username = x.account.username)
    (profiles : ∀ x, (f x).account.profile = x.account.profile) :
    t.Carries N (t.modify id f) := by
  refine ⟨Nat.le_refl _, fun y hy => ?_⟩
  obtain ⟨x, hx, rfl⟩ := mem_modify.mp hy
  refine .inl ⟨x, hx, ?_⟩
  split
  · exact ⟨(ids x).symm, (usernames x).symm, (profiles x).symm⟩
  · exact ⟨rfl, rfl, rfl⟩

/-- No statement but a save changes a username or a profile. -/
theorem carries_run (t : AccountTable) {stmt : Statement} (kept : ∀ a, stmt ≠ .save a)
    (makes : ∀ new, stmt = .create new → ∀ id,
      N new.username (NewAccount.toAccount new id).profile) :
    t.Carries N (stmt.run t).2 := by
  cases stmt with
  | create new =>
    rcases create_cases t new with ⟨-, he⟩ | ⟨-, he⟩ <;> simp only [Statement.run, he]
    · exact .refl t
    · refine ⟨Nat.le_succ _, fun y hy => ?_⟩
      rcases List.mem_append.mp hy with hy | hy
      · exact .inl ⟨y, hy, rfl, rfl, rfl⟩
      · rw [List.mem_singleton.mp hy]
        refine .inr ⟨?_, makes new rfl _⟩
        simp only [NewAccount.toAccount]
        omega
  | save a => exact absurd rfl (kept a)
  | setSession id token expiresAt =>
    rcases setSession_cases t id token expiresAt with ⟨-, he⟩ | ⟨-, -, he⟩ | ⟨-, -, he⟩ <;>
      simp only [Statement.run, he]
    · exact .refl t
    · exact .refl t
    · exact carries_modify t id (fun _ => rfl) (fun _ => rfl) fun _ => rfl
  | clearSession id => exact carries_modify t id (fun _ => rfl) (fun _ => rfl) fun _ => rfl
  | delete id =>
    rcases delete_cases t id with ⟨-, he⟩ | ⟨-, he⟩ <;> simp only [Statement.run, he]
    · exact .refl t
    · exact ⟨Nat.le_refl _, fun y hy => .inl ⟨y, (List.mem_filter.mp hy).1, rfl, rfl, rfl⟩⟩

end AccountTable

namespace Operation

theorem Issues.no_save {s : Scene} {op : Operation} (other : ∀ a q, op ≠ .update a q)
    {stmt : Statement} (h : op.Issues s stmt) (b : Account) : stmt ≠ .save b := by
  rintro rfl
  cases op with
  | update a q => exact other a q rfl
  | setSession => cases h
  | clearSession => cases h
  | _ => exact h

/-- Nothing but an update changes a username or a profile. -/
theorem carries {N : String → ProfileColumns → Prop} (s : Scene) {op : Operation}
    (other : ∀ a q, op ≠ .update a q)
    (makes : ∀ new, op.Issues s (.create new) → ∀ id,
      N new.username (AccountTable.NewAccount.toAccount new id).profile) (r : Registry) :
    r.accounts.Carries N ((op.work s).perform r).2.accounts := by
  refine (Flow.Within.run (op.within_work s)
    (R := fun r r' => r.accounts.Carries N r'.accounts) ?_ ?_ ?_ r).2
  · exact fun r => .refl r.accounts
  · exact fun _ _ _ => .trans
  · rintro update (quiet | ⟨stmt, issued, performs⟩) r
    · rw [quiet r]
      exact .refl _
    · rw [performs r]
      exact r.accounts.carries_run (issued.no_save other)
        fun new created => makes new (created ▸ issued)

/-- What an update or a deletion has seen of its account is what is stored. -/
def SeesCurrent (t : AccountTable) : Operation → Prop
  | update a _ => ⟨a, true⟩ ∈ t.rows
  | delete a => ⟨a, true⟩ ∈ t.rows
  | _ => True

end Operation

/-- An operation that is done after others is part of a run, whatever these were. -/
theorem Run.Reached.follow {x : Run} (reached : Run.Reached Run.SeesStored x) (s : Scene)
    {op : Operation} (current : op.SeesCurrent x.registry.accounts) :
    ∃ y, Run.Reached Run.SeesStored y ∧ y.registry = ((op.work s).perform x.registry).2 := by
  have admitted : Run.SeesStored x s op := by
    rintro a q rfl
    exact ⟨_, List.mem_cons_self, _, current, rfl, rfl⟩
  obtain ⟨y, -, reached, after⟩ := reached.perform admitted
  exact ⟨y, reached, after⟩

end PlayerRegistry
