import PlayerRegistry.Proofs.Runs

/-!
# Updates side by side

Updates of one account that take their steps in any order. Each saves the whole profile, so the one
that saves last decides every field: those that it does not set get the value that it saw when it
began. What another update has changed meanwhile is lost unless it saw that too.
-/

namespace PlayerRegistry

/-- An update with the account as it sees it. -/
structure ProfileUpdate where
  scene : Scene
  seen : Account
  request : UpdateRequest

namespace AccountTable

theorem findById_of_row? {t : AccountTable} {id : Int} {a : Account}
    (h : t.row? id = some ⟨a, true⟩) : t.findById id = .ok (some a) := by
  rw [findById, find]
  rw [row?] at h
  rw [h]
  rfl

/-- A save that succeeds writes the profile of the row, which can be read then, and no more. -/
theorem row?_save {t t' : AccountTable} {a : Account} (h : t.save a = (.ok (), t')) :
    ∃ x, t.row? a.id = some x ∧
      t'.row? a.id = some ⟨{ x.account with profile := a.profile }, true⟩ := by
  rcases save_cases t a with ⟨-, he⟩ | ⟨-, -, he⟩ | ⟨⟨x, hx, hid⟩, -, he⟩
  · simp [he] at h
  · simp [he] at h
  · have held : (t.row? a.id).isSome := by
      simp only [row?, List.find?_isSome]
      exact ⟨x, hx, by simpa using hid⟩
    obtain ⟨y, hy⟩ := Option.isSome_iff_exists.mp held
    rw [he, Prod.mk.injEq] at h
    refine ⟨y, hy, ?_⟩
    rw [← h.2, row?_modify_self]
    · rw [hy]
      rfl
    · exact fun _ => rfl

end AccountTable

namespace ProfileUpdate

/-- The steps of the update. -/
def flow (u : ProfileUpdate) : Flow Registry (Result Account) :=
  ExceptT.run (u.scene.updateProfile u.seen u.request)

def Sets (u : ProfileUpdate) (f : ProfileField) : Prop := u.request.Sets f

instance (u : ProfileUpdate) (f : ProfileField) : Decidable (u.Sets f) :=
  inferInstanceAs (Decidable (u.request.Sets f))

/-- A field has the value that the update asks for. -/
def Granted (u : ProfileUpdate) (p : ProfileColumns) (f : ProfileField) : Prop :=
  u.scene.Grants u.request p f

/-- The update is under way and has not saved, or it is over. -/
inductive Stage (u : ProfileUpdate) : Flow Registry (Result Account) → Prop where
  | pending {f} : Flow.Until Work.Quiet (u.scene.SaveEnd u.seen u.request) f → Stage u f
  | saved {b} : u.scene.Updates u.seen u.request b → Stage u (.done (.ok b))

/-- A step of an update is quiet, or it saves and was the last. -/
theorem Stage.step {u : ProfileUpdate} {update : Registry → Registry}
    {next : Registry → Flow Registry (Result Account)} (h : u.Stage (.step update next))
    (r : Registry) :
    (Flow.Until Work.Quiet (u.scene.SaveEnd u.seen u.request) (next r) ∧
      (update r).accounts = r.accounts) ∨
    ∃ b, u.scene.Updates u.seen u.request b ∧ next r = .done (.ok b) ∧
      r.accounts.save b = (.ok (), (update r).accounts) := by
  generalize begun : Flow.step update next = f at h
  rcases h with ⟨ends | ⟨quiet, rest⟩⟩ | _
  · cases ends with
    | failed e => cases begun
    | @save b updates =>
      rw [Scene.run_save] at begun
      injection begun with hu hn
      subst hu hn
      dsimp only
      rcases AccountTable.save_cases r.accounts b with ⟨-, he⟩ | ⟨-, -, he⟩ | ⟨-, -, he⟩
      · rw [he]
        exact .inl ⟨.now (.failed _), rfl⟩
      · rw [he]
        exact .inl ⟨.now (.failed _), rfl⟩
      · refine .inr ⟨b, updates, ?_, ?_⟩
        · rw [he]
          rfl
        · rw [he]
  · injection begun with hu hn
    subst hu hn
    exact .inl ⟨rest r, quiet r⟩
  · cases begun

theorem not_pending_ok {u : ProfileUpdate} {b : Account} :
    ¬Flow.Until Work.Quiet (u.scene.SaveEnd u.seen u.request) (.done (Except.ok b)) := by
  generalize ended : Flow.done (Except.ok b) = f
  intro h
  cases h with
  | now ends =>
    cases ends with
    | failed e => cases ended
    | save updates =>
      rw [Scene.run_save] at ended
      cases ended
  | later => cases ended

/-- In the row of the account stands what one of the updates has saved last. -/
def LastSave (us : List ProfileUpdate) (id : Int) (t t' : AccountTable) : Prop :=
  ∃ u ∈ us, ∃ b x, u.scene.Updates u.seen u.request b ∧ t.row? id = some x ∧
    t'.row? id = some ⟨{ x.account with profile := b.profile }, true⟩

/-- What holds while several updates of an account are under way. -/
structure UnderWay (us : List ProfileUpdate) (id : Int) (t : AccountTable)
    (x : List (Flow Registry (Result Account)) × Registry) : Prop where
  stages : ∀ f ∈ x.1, ∃ u ∈ us, u.Stage f
  written : (x.2.accounts = t ∧ ∀ b, .done (.ok b) ∉ x.1) ∨ LastSave us id t x.2.accounts

theorem UnderWay.next {us : List ProfileUpdate} {id : Int} {t : AccountTable}
    (same : ∀ u ∈ us, u.seen.id = id) {x y : List (Flow Registry (Result Account)) × Registry}
    (h : UnderWay us id t x) (step : Flow.Step x y) : UnderWay us id t y := by
  obtain ⟨before, after, update, next, r⟩ := step
  obtain ⟨u, hu, stage⟩ := h.stages (.step update next) (by simp)
  have others : ∀ f, f ∈ before ++ next r :: after →
      f = next r ∨ f ∈ before ++ .step update next :: after := fun _ hf =>
    Flow.mem_of_replaced _ hf
  rcases stage.step r with ⟨pending, kept⟩ | ⟨b, updates, ended, saved⟩
  · constructor
    · intro f hf
      rcases others f hf with rfl | hf
      · exact ⟨u, hu, .pending pending⟩
      · exact h.stages f hf
    · rcases h.written with ⟨unchanged, none⟩ | last
      · refine .inl ⟨kept.trans unchanged, ?_⟩
        intro b hb
        rcases others _ hb with hb | hb
        · exact not_pending_ok (hb ▸ pending)
        · exact none b hb
      · exact .inr (by simpa only [kept] using last)
  · refine ⟨?_, .inr ?_⟩
    · intro f hf
      rcases others f hf with rfl | hf
      · exact ⟨u, hu, ended ▸ .saved updates⟩
      · exact h.stages f hf
    · obtain ⟨z, hz, written⟩ := AccountTable.row?_save saved
      have hid : b.id = id := by
        rw [updates.rest]
        exact same u hu
      rw [hid] at hz written
      -- What an earlier save has left in the row but for the profile is from the first table.
      rcases h.written with ⟨unchanged, -⟩ | ⟨_, _, c, x, -, hx, hc⟩
      · exact ⟨u, hu, b, z, updates, unchanged ▸ hz, written⟩
      · have : z = ⟨{ x.account with profile := c.profile }, true⟩ :=
          Option.some.inj (hz.symm.trans hc)
        subst this
        exact ⟨u, hu, b, x, updates, hx, written⟩

theorem UnderWay.steps {us : List ProfileUpdate} {id : Int} {t : AccountTable}
    (same : ∀ u ∈ us, u.seen.id = id) {x y : List (Flow Registry (Result Account)) × Registry}
    (h : UnderWay us id t x) (steps : Flow.Steps x y) : UnderWay us id t y := by
  induction steps with
  | refl => exact h
  | tail _ last ih => exact ih.next same last

/-- Any number of updates that have not begun yet. -/
theorem UnderWay.start {us : List ProfileUpdate} {id : Int} (r : Registry) :
    UnderWay us id r.accounts (us.map flow, r) := by
  have pending : ∀ u : ProfileUpdate, u.Stage u.flow := fun u =>
    .pending (Scene.until_updateProfile u.scene u.seen u.request)
  refine ⟨?_, .inl ⟨rfl, ?_⟩⟩
  · intro f hf
    obtain ⟨u, hu, rfl⟩ := List.mem_map.mp hf
    exact ⟨u, hu, pending u⟩
  · intro b hb
    obtain ⟨u, -, hu⟩ := List.mem_map.mp hb
    have pending : Flow.Until Work.Quiet (u.scene.SaveEnd u.seen u.request) u.flow :=
      Scene.until_updateProfile u.scene u.seen u.request
    exact not_pending_ok (hu ▸ pending)

/-- Two updates of an account that set different fields and both succeed: all that one of them has
saved is stored, and the changes of the other are stored too exactly if the first had seen them
when it began. Nothing but the profile of the account is written. -/
theorem updates_side_by_side {u v : ProfileUpdate} (same : u.seen.id = v.seen.id)
    (apart : ∀ f, ¬(u.Sets f ∧ v.Sets f)) {r r' : Registry} {a b : Account}
    (steps : Flow.Steps ([u.flow, v.flow], r) ([.done (.ok a), .done (.ok b)], r')) :
    ∃ stored x last other, r.accounts.row? u.seen.id = some stored ∧
      r'.accounts.findById u.seen.id = .ok (some x) ∧
      x = { stored.account with profile := x.profile } ∧
      ((last, other) = (u, v) ∨ (last, other) = (v, u)) ∧
      (∀ f, last.Sets f → last.Granted x.profile f) ∧
      (∀ f, ¬last.Sets f → x.profile.Agree last.seen.profile f) ∧
      ((∀ f, other.Sets f → other.Granted x.profile f) ↔
        ∀ f, other.Sets f → other.Granted last.seen.profile f) := by
  have ids : ∀ w ∈ [u, v], w.seen.id = u.seen.id := by simp [same]
  have under : UnderWay [u, v] u.seen.id r.accounts ([.done (.ok a), .done (.ok b)], r') :=
    (UnderWay.start r).steps ids steps
  rcases under.written with ⟨-, none⟩ | ⟨last, hlast, c, stored, updates, before, after⟩
  · exact absurd (List.mem_cons_self) (none a)
  · have other : ∃ other, (last, other) = (u, v) ∨ (last, other) = (v, u) := by
      have hlast : last = u ∨ last = v := by simpa using hlast
      rcases hlast with rfl | rfl
      · exact ⟨v, .inl rfl⟩
      · exact ⟨u, .inr rfl⟩
    obtain ⟨other, which⟩ := other
    have leaves : ∀ f, other.Sets f → ¬last.Sets f := by
      intro f sets sets'
      rcases which with h | h
      · obtain ⟨rfl, rfl⟩ := Prod.mk.inj h
        exact apart f ⟨sets', sets⟩
      · obtain ⟨rfl, rfl⟩ := Prod.mk.inj h
        exact apart f ⟨sets, sets'⟩
    refine ⟨stored, _, last, other, before, AccountTable.findById_of_row? after, rfl, which,
      updates.granted, updates.kept, ?_⟩
    refine forall_congr' fun f => forall_congr' fun sets => ?_
    exact (updates.kept f (leaves f sets)).grants_iff other.scene other.request

/-- The language is changed to Spanish. -/
def toSpanish : ProfileUpdate :=
  ⟨.plain, Alice.account, ⟨none, some "es", none, none, none, none⟩⟩

/-- The player name is changed, at the same time. -/
def toBob : ProfileUpdate := ⟨.plain, Alice.account, Alice.newName⟩

def spanish : Account :=
  { Alice.account with profile := { Alice.account.profile with language := "es" } }

theorem spanish_then_bob :
    Flow.Steps ([toSpanish.flow, toBob.flow], Alice.registry)
      ([.done (.ok spanish), .done (.ok Alice.renamed)], Alice.afterNewName) := by
  have first := Flow.Steps.alone [] [toBob.flow] toSpanish.flow Alice.registry
  have second := Flow.Steps.alone [.done (toSpanish.flow.run Alice.registry).1] [] toBob.flow
    (toSpanish.flow.run Alice.registry).2
  exact first.trans second

theorem spanish_apart_bob (f : ProfileField) : ¬(toSpanish.Sets f ∧ toBob.Sets f) := by
  cases f <;> decide

/-- Both succeed, and the language is what it was before. -/
theorem spanish_is_lost :
    Alice.registry.accounts.findById 1 = .ok (some Alice.account) ∧
    (∀ f, ¬(toSpanish.Sets f ∧ toBob.Sets f)) ∧
    Flow.Steps ([toSpanish.flow, toBob.flow], Alice.registry)
      ([.done (.ok spanish), .done (.ok Alice.renamed)], Alice.afterNewName) ∧
    Alice.afterNewName.accounts.findById 1 = .ok (some Alice.renamed) ∧
    toSpanish.Sets .language ∧ ¬toSpanish.Granted Alice.renamed.profile .language := by
  refine ⟨rfl, spanish_apart_bob, spanish_then_bob, rfl, rfl, ?_⟩
  change some "es" ≠ some "en"
  decide

/-- What is stored after both is seen by one of them, but for what it sets. -/
theorem spanish_beside_bob :
    ∃ x last, Alice.afterNewName.accounts.findById 1 = .ok (some x) ∧
      (last = toSpanish ∨ last = toBob) ∧
      ∀ f, ¬last.Sets f → x.profile.Agree last.seen.profile f := by
  obtain ⟨_, x, last, other, -, found, -, which, -, kept, -⟩ :=
    updates_side_by_side (u := toSpanish) (v := toBob) rfl spanish_apart_bob spanish_then_bob
  refine ⟨x, last, found, ?_, kept⟩
  rcases which with h | h
  · exact .inl (Prod.mk.inj h).1
  · exact .inr (Prod.mk.inj h).1

end ProfileUpdate

end PlayerRegistry
