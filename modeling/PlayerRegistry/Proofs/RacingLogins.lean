import PlayerRegistry.Proofs.AnonymousRace
import PlayerRegistry.Proofs.SessionHistory

/-!
# How a race of anonymous logins ends

At every moment the logins hold different tokens, and what each of them has seen is still so. A
login writes its session in its last step, so the one that returns last is left with the session of
the account, and the tokens of the others are of no use.
-/

namespace PlayerRegistry

open AccountTable (Live)

namespace AnonymousRace

variable {race : AnonymousRace} {t t' : AccountTable} {r r' : Registry} {now : Instant}

/-- A login with the time at which it is done. -/
abbrev Racer := Instant × LoginStage

def flow (race : AnonymousRace) (g : Racer) : Flow Registry (Result SignedIn) :=
  g.2.flow (race.sceneAt g.1) race.request

def tokens (gs : List Racer) : List Nat := gs.flatMap fun g => g.2.token?.toList

/-- The tokens of the logins that have returned. -/
def returned (gs : List Racer) : List Nat := gs.flatMap fun g => g.2.ended?.toList

def drawsLeft : List Racer → Nat
  | [] => 0
  | g :: gs => g.2.drawsLeft + drawsLeft gs

theorem drawsLeft_append (gs gs' : List Racer) :
    drawsLeft (gs ++ gs') = drawsLeft gs + drawsLeft gs' := by
  induction gs with
  | nil => simp [drawsLeft]
  | cons g gs ih => simp [drawsLeft, ih, Nat.add_assoc]

theorem drawsLeft_le (gs : List Racer) : drawsLeft gs ≤ 4 * gs.length := by
  induction gs with
  | nil => exact le_rfl
  | cons g gs ih =>
    have one : g.2.drawsLeft ≤ 4 := by cases g.2 <;> simp [LoginStage.drawsLeft]
    simp only [drawsLeft, List.length_cons]
    omega

/-- What holds of the logins and the registry at every moment. -/
structure Racing (race : AnonymousRace) (gs : List Racer) (r : Registry) : Prop where
  table : race.Table r.accounts
  knows : ∀ g ∈ gs, race.Knows r.accounts g.2
  apart : (tokens gs).Nodup
  drawn : ∀ k ∈ tokens gs, k < r.draws
  since : race.start.draws ≤ r.draws
  room : r.draws + drawsLeft gs ≤ race.last + 4 * race.times.length
  all : gs.length = race.times.length

theorem Table.later (h : race.Table r.accounts) (change : race.Elsewhere r r') :
    race.Undisturbed r.accounts r'.accounts := by
  rcases change.accounts with same | ⟨stmt, leaves, same⟩
  · rw [same]
    exact h.undisturbed
  · rw [same]
    exact h.elsewhere leaves

theorem Racing.elsewhere {gs : List Racer} (h : race.Racing gs r) (change : race.Elsewhere r r') :
    race.Racing gs r' := by
  obtain ⟨table, keeps, -⟩ := h.table.later change
  obtain ⟨forth, bound⟩ := change.draws
  have short := drawsLeft_le gs
  refine ⟨table, fun g hg => (h.knows g hg).later keeps, h.apart,
    fun k hk => (h.drawn k hk).trans_le forth, h.since.trans forth, ?_, h.all⟩
  have := h.room
  have := h.all
  omega

theorem tokens_perm (gs₁ : List Racer) (g : Racer) (gs₂ : List Racer) :
    (tokens (gs₁ ++ g :: gs₂)).Perm (g.2.token?.toList ++ tokens (gs₁ ++ gs₂)) := by
  simp only [tokens, List.flatMap_append, List.flatMap_cons]
  exact List.perm_append_comm_assoc _ _ _

theorem Racing.exists_advance {gs₁ gs₂ : List Racer} {g : LoginStage}
    (h : race.Racing (gs₁ ++ (now, g) :: gs₂) r) (unfinished : g.ended? = none) :
    ∃ g' r', race.Advance now r g g' r' := by
  have all := h.room
  simp only [drawsLeft_append, drawsLeft] at all
  have room : r.draws + g.drawsLeft ≤ race.last + 4 * race.times.length := by omega
  exact AnonymousRace.exists_advance h.table (h.knows (now, g) (by simp)) h.since room now
    unfinished

/-- The logins of `earlier` have returned. Either these are all that have, or the account of the
name has a session that another one has begun since. -/
structure Since (race : AnonymousRace) (earlier : List Nat) (gs : List Racer)
    (t : AccountTable) : Prop where
  still : ∀ k ∈ earlier, k ∈ returned gs
  newest : (∀ k ∈ returned gs, k ∈ earlier) ∨
    ∃ now a k, (now, .ended a k) ∈ gs ∧ k ∉ earlier ∧ race.Has t (race.session now k).columns

theorem returned_of_ended {gs : List Racer} {a : Account} {k : Nat} (h : (now, .ended a k) ∈ gs) :
    k ∈ returned gs :=
  List.mem_flatMap.mpr ⟨_, h, by simp [LoginStage.ended?]⟩

theorem Since.elsewhere {earlier : List Nat} {gs : List Racer}
    (h : race.Since earlier gs r.accounts) (table : race.Table r.accounts)
    (change : race.Elsewhere r r') : race.Since earlier gs r'.accounts := by
  refine ⟨h.still, h.newest.imp_right ?_⟩
  rintro ⟨time, a, k, member, other, has⟩
  exact ⟨time, a, k, member, other, (table.later change).has _ has⟩

theorem Racing.ended_of_done {gs : List Racer} (h : race.Racing gs r) {g : Racer} (hg : g ∈ gs)
    {result : Result SignedIn} (done : race.flow g = .done result) :
    ∃ a k, g.2 = .ended a k ∧ result = .ok ⟨a, race.session g.1 k⟩ := by
  obtain ⟨gs₁, gs₂, rfl⟩ := List.append_of_mem hg
  obtain ⟨now, g⟩ := g
  cases ended : g.ended? with
  | some k =>
    cases g with
    | ended a k =>
      refine ⟨a, k, rfl, ?_⟩
      have same : Flow.done (.ok ⟨a, race.session now k⟩) = .done result := done
      injection same with same
      exact same.symm
    | _ => cases ended
  | none =>
    obtain ⟨g', r', step⟩ := h.exists_advance ended
    exact absurd done (step.takes.not_done result)

theorem Racing.ended_of_all_done {gs : List Racer} (h : race.Racing gs r)
    {results : List (Result SignedIn)} (works : results.map .done = gs.map race.flow) :
    ∀ g ∈ gs, ∃ a k, g.2 = .ended a k := by
  intro g hg
  have mapped : race.flow g ∈ results.map .done := works ▸ List.mem_map_of_mem hg
  obtain ⟨result, -, same⟩ := List.mem_map.mp mapped
  obtain ⟨a, k, ended, -⟩ := h.ended_of_done hg same.symm
  exact ⟨a, k, ended⟩

theorem Racing.ours {gs : List Racer} (h : race.Racing gs r) {a : Account} {k : Nat}
    (member : (now, .ended a k) ∈ gs) : race.Ours k := (h.knows _ member).2

/-- In the end the account of the name has the session of one of the logins. -/
theorem Racing.exists_winner {gs : List Racer} (h : race.Racing gs r)
    (since : race.Since [] gs r.accounts) (all : ∀ g ∈ gs, ∃ a k, g.2 = .ended a k) :
    ∃ time a k, (time, .ended a k) ∈ gs ∧ race.Has r.accounts (race.session time k).columns := by
  rcases since.newest with none | ⟨time, a, k, member, -, has⟩
  · obtain ⟨g, hg⟩ : ∃ g, g ∈ gs := by
      apply List.exists_mem_of_ne_nil
      rintro rfl
      exact race.nonempty (List.length_eq_zero_iff.mp h.all.symm)
    obtain ⟨a, k, ended⟩ := all g hg
    obtain ⟨time, g⟩ := g
    cases ended
    exact absurd (none k (returned_of_ended hg)) (List.not_mem_nil)
  · exact ⟨time, a, k, member, has⟩

/-- A token of a login that has returned is found only where the account of the name has it. -/
theorem Racing.has_of_token {gs : List Racer} (h : race.Racing gs r) {a : Account} {k : Nat}
    (member : (now, .ended a k) ∈ gs) {x : Row} (hx : x ∈ r.accounts.rows)
    (token : x.account.session.token = some (race.session now k).token) :
    race.Named x.account := by
  by_contra other
  exact ((h.table.others x hx other).2 k (h.ours member)).2 token

/-- Tokens of different logins differ. -/
theorem Racing.same_token {gs : List Racer} (h : race.Racing gs r) {a b : Account} {j k : Nat}
    {time : Instant} (member : (now, .ended a j) ∈ gs) (member' : (time, .ended b k) ∈ gs)
    (same : (race.session now j).token = (race.session time k).token) : j = k :=
  race.unused.apart j k (h.ours member).1 (h.ours member).2 (h.ours member').1 (h.ours member').2
    same

end AnonymousRace

namespace AccountTable

theorem Coherent.resolve_none {t : AccountTable} (h : t.Coherent) {token : String}
    (unknown : ∀ x ∈ t.rows, x.account.session.token ≠ some token) (enforce : Bool)
    (now : Instant) : t.resolve enforce now token = .ok none := by
  obtain ⟨found, resolved⟩ := h.resolve_ok enforce now token
  cases found with
  | none => exact resolved
  | some a =>
    by_cases given : token = ""
    · rw [resolve, if_pos given]
    · obtain ⟨hx, same, -⟩ := (h.resolve_iff given enforce now a).mp resolved
      exact absurd same (unknown _ hx)

end AccountTable

namespace AnonymousRace

variable {race : AnonymousRace} {r r' : Registry}

/-- All logins have succeeded with the one account of the name. One of the tokens resolves to it, as
long as its session is live, and no other token resolves. -/
def Agree (race : AnonymousRace) (results : List (Result SignedIn)) (r : Registry) : Prop :=
  ∃ x before last after, (∀ y, y ∈ r.accounts.rows ∧ race.Named y.account ↔ y = x) ∧
    (∀ result ∈ results, ∃ signed, result = .ok signed ∧ signed.account.id = x.account.id) ∧
    results = before ++ .ok last :: after ∧
    (∀ enforce now, Live enforce now (some last.session.expiresAt) →
      r.accounts.resolve enforce now last.session.token = .ok (some x.account)) ∧
    ∀ signed, .ok signed ∈ before ++ after → ∀ enforce now,
      r.accounts.resolve enforce now signed.session.token = .ok none

/-- The login of a result. -/
theorem Racing.source {gs gs' : List Racer} (h : race.Racing gs r) (sub : ∀ g ∈ gs', g ∈ gs)
    {result : Result SignedIn} (returned : .done result ∈ gs'.map race.flow) :
    ∃ time a k, (time, .ended a k) ∈ gs' ∧ result = .ok ⟨a, race.session time k⟩ := by
  obtain ⟨⟨time, g⟩, hg, same⟩ := List.mem_map.mp returned
  obtain ⟨a, k, rfl, ended⟩ := h.ended_of_done (sub _ hg) same
  exact ⟨time, a, k, hg, ended⟩

/-- Where the account of the name has the session of one login, the token of no other is found. -/
theorem Racing.resolve_other {gs₁ gs₂ : List Racer} {time time' : Instant} {a b : Account}
    {j k : Nat} (h : race.Racing (gs₁ ++ (time, .ended a k) :: gs₂) r) {x : Row}
    (hx : x ∈ r.accounts.rows) (named : race.Named x.account)
    (session : x.account.session = (race.session time k).columns)
    (other : (time', .ended b j) ∈ gs₁ ++ gs₂) (enforce : Bool) (now : Instant) :
    r.accounts.resolve enforce now (race.session time' j).token = .ok none := by
  have apart := (List.nodup_append.mp ((tokens_perm _ _ _).nodup_iff.mp h.apart)).2.2
  have member : (time, .ended a k) ∈ gs₁ ++ (time, LoginStage.ended a k) :: gs₂ := by simp
  have there : (time', .ended b j) ∈ gs₁ ++ (time, LoginStage.ended a k) :: gs₂ := by
    simpa using (List.mem_append.mp other).imp_right .inr
  apply h.table.coherent.resolve_none
  intro y hy token
  -- Only the account of the name could have it, and that has another token.
  have same := h.table.only hy hx (h.has_of_token there hy token) named
  rw [same, session] at token
  have equal : k = j := h.same_token member there (Option.some.inj token)
  refine apart k (by simp [LoginStage.token?]) j ?_ equal
  exact List.mem_flatMap.mpr ⟨_, other, by simp [LoginStage.token?]⟩

theorem Racing.agree {gs : List Racer} (h : race.Racing gs r) (since : race.Since [] gs r.accounts)
    {results : List (Result SignedIn)} (works : results.map .done = gs.map race.flow) :
    race.Agree results r := by
  obtain ⟨time, a, k, member, x, hx, named, session⟩ :=
    h.exists_winner since (h.ended_of_all_done works)
  have only : ∀ y, y ∈ r.accounts.rows ∧ race.Named y.account ↔ y = x := by
    refine fun y => ⟨fun ⟨hy, named'⟩ => h.table.only hy hx named' named, ?_⟩
    rintro rfl
    exact ⟨hx, named⟩
  obtain ⟨gs₁, gs₂, rfl⟩ := List.append_of_mem member
  have parts := works
  rw [List.map_append, List.map_cons] at parts
  obtain ⟨before, rest, rfl, first, others⟩ := List.map_eq_append_iff.mp parts
  obtain ⟨result, after, rfl, own, second⟩ := List.map_eq_cons_iff.mp others
  have ended : Flow.done result = .done (.ok ⟨a, race.session time k⟩) := own
  injection ended with ended
  subst ended
  refine ⟨x, before, ⟨a, race.session time k⟩, after, only, ?_, rfl, ?_, ?_⟩
  · intro result hr
    obtain ⟨time', b, j, member', rfl⟩ :=
      h.source (fun _ => id) (works ▸ List.mem_map_of_mem hr)
    obtain ⟨⟨y, hy, named', same⟩, -⟩ := h.knows _ member'
    exact ⟨_, rfl, by rw [← (only y).mp ⟨hy, named'⟩, same]⟩
  · intro enforce now live
    have ours := h.ours member
    have readable : x = ⟨x.account, true⟩ := by
      rw [← h.table.coherent.readable x hx]
    refine (h.table.coherent.resolve_iff (race.unused.tokens k ours.1 ours.2) enforce now _).mpr
      ⟨readable ▸ hx, by rw [session]; rfl, ?_⟩
    rw [session]
    exact live
  · intro signed hs enforce now
    have mapped : .done (.ok signed) ∈ (gs₁ ++ gs₂).map race.flow := by
      rw [List.map_append, ← first, ← second, ← List.map_append]
      exact List.mem_map_of_mem hs
    have sub : ∀ g ∈ gs₁ ++ gs₂, g ∈ gs₁ ++ (time, LoginStage.ended a k) :: gs₂ := fun g hg => by
      simpa using (List.mem_append.mp hg).imp_right .inr
    obtain ⟨time', b, j, other, same⟩ := h.source sub mapped
    cases same
    exact h.resolve_other hx named session other enforce now

end AnonymousRace

end PlayerRegistry
