import PlayerRegistry.Proofs.OperationOutcomes
import PlayerRegistry.Proofs.Responses
import PlayerRegistry.Proofs.SessionHistory

/-!
# What a request leaves alone

A request that is answered alone changes at most the account that it is about: the one whose session
it shows, the one that it names, or a new one. A request that does not succeed changes no account,
but for a deletion that removes the account and then not all of its textures.
-/

namespace PlayerRegistry

open Http (Request Response)

namespace AccountTable

/-- Nothing differs but the row of an id. -/
def SameBut (id : Int) (t t' : AccountTable) : Prop :=
  t'.lastId = t.lastId ∧
    t'.rows.filter (·.account.id ≠ id) = t.rows.filter (·.account.id ≠ id)

theorem SameBut.refl (id : Int) (t : AccountTable) : SameBut id t t := ⟨rfl, rfl⟩

theorem sameBut_modify (t : AccountTable) (id : Int) {f : Row → Row}
    (ids : ∀ x, (f x).account.id = x.account.id) : SameBut id t (t.modify id f) :=
  ⟨rfl, filter_modify t id ids⟩

theorem sameBut_without (t : AccountTable) (id : Int) : SameBut id t (t.without id) := by
  refine ⟨rfl, ?_⟩
  rw [without, List.filter_filter]
  simp

end AccountTable

namespace Site

/-- The routes that are for those who show a session. -/
def Route.NeedsSession : Route → Prop
  | profile | update | logout | deleteAccount => True
  | health | register | login | texture .. | challengeSkin | migration => False

variable {limit : Option Nat} {s : Scene} {q : Request} {r : Registry} {route : Route}
  {visited : Except Response Response × Registry}

/-- Whose session is shown has a row in the table. -/
theorem Recognizes.stored {t : AccountTable} (coherent : t.Coherent) {a : Account}
    (h : Recognizes s q t a) : (⟨a, true⟩ : Row) ∈ t.rows := by
  obtain ⟨token, -, resolved⟩ := h
  have given : token ≠ "" := by
    rintro rfl
    simp [AccountTable.resolve] at resolved
  exact ((coherent.resolve_iff given _ _ a).mp resolved).1

/-- Where a session is needed, a request without one fails and changes nothing at all. -/
theorem Visits.without_session (h : Visits limit s q r route visited)
    (needed : route.NeedsSession) (none : ∀ a, ¬Recognizes s q r.accounts a) :
    ¬(answered visited.1).Succeeds ∧ visited.2 = r := by
  cases h with
  | looked reads other => cases route <;> simp_all [Route.NeedsSession, Route.isPost]
  | turnedAway fails => exact ⟨fails, rfl⟩
  | register => exact needed.elim
  | login => exact needed.elim
  | profile recognized => exact absurd recognized (none _)
  | logout recognized => exact absurd recognized (none _)
  | update recognized => exact absurd recognized (none _)
  | deleteAccount recognized => exact absurd recognized (none _)

/-- With a session, only the row of its account may differ. -/
theorem Visits.same_but (h : Visits limit s q r route visited) (needed : route.NeedsSession)
    (coherent : r.accounts.Coherent) (valid : r.accounts.All Account.HasContentHashes)
    {a : Account} (own : Recognizes s q r.accounts a) :
    AccountTable.SameBut a.id r.accounts visited.2.accounts := by
  cases h with
  | looked | turnedAway | profile => exact .refl _ _
  | register => exact needed.elim
  | login => exact needed.elim
  | logout recognized =>
    obtain rfl := own.unique recognized
    exact AccountTable.sameBut_modify _ _ fun _ => rfl
  | @update _ form recognized =>
    obtain rfl := own.unique recognized
    rcases Scene.accounts_updateProfile s a form r with ⟨e, r', done, same, -⟩ |
      ⟨b, r', done, -, saved⟩
    · rw [done, finish_error, same]
      exact .refl _ _
    · rw [done, finish_ok, saved]
      exact AccountTable.sameBut_modify _ _ fun _ => rfl
  | deleteAccount recognized =>
    obtain rfl := own.unique recognized
    have stored := own.stored coherent
    obtain ⟨result, textures, done, -⟩ :=
      Scene.perform_deleteAccount (s := s) ⟨_, stored, rfl⟩ (valid _ stored)
    rw [done]
    exact AccountTable.sameBut_without _ _

/-- A registration adds an account of the username in the form, or changes none. -/
theorem Visits.register_adds (h : Visits limit s q r .register visited) :
    visited.2.textures = r.textures ∧
    (visited.2.accounts = r.accounts ∨ ∃ form added,
      form? limit q RegisterRequest.ofForm? = some form ∧ added.username = form.username ∧
        visited.2.accounts = r.accounts.add added) := by
  cases h with
  | looked reads => cases reads
  | turnedAway => exact ⟨rfl, .inl rfl⟩
  | @register form read =>
    have textures := (Scene.spares_register s form).same r
    refine ⟨textures, ?_⟩
    rcases Scene.accounts_register s form r with
      ⟨e, r', done, same⟩ | ⟨made, r', done, named, added⟩
    · rw [done]
      exact .inl same
    · rw [done]
      exact .inr ⟨form, made.account, read, named, added⟩

/-- A login changes the session of the account that the form names, or adds an account of that
name, or changes none. -/
theorem Visits.login_begins (h : Visits limit s q r .login visited)
    (coherent : r.accounts.Coherent) :
    visited.2.textures = r.textures ∧
    (visited.2.accounts = r.accounts ∨ ∃ form,
      form? limit q LoginRequest.ofForm? = some form ∧
      ((∃ x ∈ r.accounts.rows, x.account.username = form.username ∧ ∃ session,
        visited.2.accounts = r.accounts.withSession x.account.id session) ∨
      ∃ added, added.username = form.username ∧ visited.2.accounts = r.accounts.add added)) := by
  cases h with
  | looked reads => cases reads
  | turnedAway => exact ⟨rfl, .inl rfl⟩
  | @login form read =>
    have textures := (Scene.spares_login s form).same r
    refine ⟨textures, ?_⟩
    rcases Scene.accounts_login coherent s form with
      ⟨e, r', done, same⟩ | ⟨made, r', done, ⟨x, hx, named, begun⟩ | ⟨named, added⟩⟩
    · rw [done]
      exact .inl same
    · rw [done]
      exact .inr ⟨form, read, .inl ⟨x, hx, named, _, begun⟩⟩
    · rw [done]
      exact .inr ⟨form, read, .inr ⟨made.account, named, added⟩⟩

/-- The account of the session is gone, though a texture of it could not be removed. -/
def HalfDeleted (s : Scene) (q : Request) (t t' : AccountTable) : Prop :=
  ∃ a, Recognizes s q t a ∧ t' = t.without a.id ∧
    ∃ kind hash, a.profile.textureHash kind = some hash ∧ s.refuses .delete kind = true

/-- A request succeeds, or changes no account, or is for a deletion that the texture store stops. If
it is refused for its length or for coming too often, it changes no texture either. -/
theorem Visits.ends (h : Visits limit s q r route visited) (coherent : r.accounts.Coherent)
    (valid : r.accounts.All Account.HasContentHashes) :
    (answered visited.1).Succeeds ∨
    (visited.2.accounts = r.accounts ∧
      ((answered visited.1).status = 413 ∨ (answered visited.1).status = 429 →
        visited.2.textures = r.textures)) ∨
    (route = .deleteAccount ∧ (answered visited.1).status = 500 ∧
      HalfDeleted s q r.accounts visited.2.accounts) := by
  have succeeded : ∀ {p : Response}, p.status = 200 ∨ p.status = 201 ∨ p.status = 204 →
      p.Succeeds := by
    intro p known
    unfold Response.Succeeds
    omega
  cases h with
  | looked | turnedAway | profile => exact .inr (.inl ⟨rfl, fun _ => rfl⟩)
  | @register form =>
    have textures := (Scene.spares_register s form).same r
    rcases Scene.accounts_register s form r with ⟨e, r', done, same⟩ | ⟨made, r', done, -, -⟩
    · rw [done] at textures ⊢
      exact .inr (.inl ⟨same, fun _ => textures⟩)
    · rw [done]
      exact .inl (succeeded (.inr (.inl rfl)))
  | @login form =>
    have textures := (Scene.spares_login s form).same r
    rcases Scene.accounts_login coherent s form with ⟨e, r', done, same⟩ | ⟨made, r', done, -⟩
    · rw [done] at textures ⊢
      exact .inr (.inl ⟨same, fun _ => textures⟩)
    · rw [done]
      exact .inl (succeeded (.inl rfl))
  | logout => exact .inl (succeeded (.inr (.inr rfl)))
  | @update a form =>
    rcases Scene.accounts_updateProfile s a form r with
      ⟨e, r', done, same, textures⟩ | ⟨b, r', done, -⟩
    · rw [done]
      refine .inr (.inl ⟨same, fun limited => textures ?_⟩)
      cases e <;> simp [answered, Response.ofError, Response.ofJson, Error.status] at limited ⊢
    · rw [done]
      exact .inl (succeeded (.inl rfl))
  | @deleteAccount a recognized =>
    have stored := recognized.stored coherent
    obtain ⟨result, textures, done, -, refused⟩ :=
      Scene.perform_deleteAccount (s := s) ⟨_, stored, rfl⟩ (valid _ stored)
    rw [done]
    cases result with
    | ok => exact .inl (succeeded (.inr (.inr rfl)))
    | error e =>
      obtain ⟨kind, hash, rfl, recorded, refuses⟩ := refused e rfl
      exact .inr (.inr ⟨rfl, rfl, a, recognized, rfl, kind, hash, recorded, refuses⟩)

/-- A request that fails changes no account, but for a deletion that the texture store stops. -/
theorem Visits.fails_without_change (h : Visits limit s q r route visited)
    (coherent : r.accounts.Coherent) (valid : r.accounts.All Account.HasContentHashes)
    (fails : ¬(answered visited.1).Succeeds) :
    visited.2.accounts = r.accounts ∨ route = .deleteAccount ∧
      (answered visited.1).status = 500 ∧ HalfDeleted s q r.accounts visited.2.accounts := by
  rcases h.ends coherent valid with succeeds | ⟨same, -⟩ | stopped
  · exact absurd succeeds fails
  · exact .inl same
  · exact .inr stopped

/-- Nothing changes for a request that is refused for its length or for coming too often. -/
theorem Visits.refused_without_change (h : Visits limit s q r route visited)
    (coherent : r.accounts.Coherent) (valid : r.accounts.All Account.HasContentHashes)
    (refused : (answered visited.1).status = 413 ∨ (answered visited.1).status = 429) :
    visited.2.accounts = r.accounts ∧ visited.2.textures = r.textures := by
  rcases h.ends coherent valid with ⟨-, below⟩ | ⟨same, textures⟩ | ⟨-, status, -⟩
  · omega
  · exact ⟨same, textures refused⟩
  · omega

/-- What is done at a route is done by an operation, if anything. -/
theorem Visits.acts (h : Visits limit s q r route visited) :
    visited.2 = r ∨ ∃ op : Operation, visited.2 = ((op.work s).perform r).2 ∧
      ∀ a form, op = .update a form → Recognizes s q r.accounts a := by
  cases h with
  | looked | turnedAway | profile => exact .inl rfl
  | @register form => exact .inr ⟨.register form, (Work.perform_ended _ r).symm, by simp⟩
  | @login form => exact .inr ⟨.login form, (Work.perform_ended _ r).symm, by simp⟩
  | @logout a => exact .inr ⟨.logout a, (Work.perform_ended _ r).symm, by simp⟩
  | @update a form recognized =>
    refine .inr ⟨.update a form, (Work.perform_ended _ r).symm, ?_⟩
    rintro _ _ ⟨⟩
    exact recognized
  | @deleteAccount a => exact .inr ⟨.delete a, rfl, by simp⟩

/-- Where nothing is to be changed, nothing at all changes. -/
theorem Visits.looks (h : Visits limit s q r route visited) (reads : route.isPost = false) :
    visited.2 = r := by
  cases h with
  | looked | turnedAway | profile => rfl
  | _ => cases reads

theorem isPost_of_method (method : q.method ∈ route.methods) (posted : q.method ≠ "POST") :
    route.isPost = false := by
  by_contra posts
  rw [Bool.not_eq_false] at posts
  rw [Route.methods, if_pos posts] at method
  exact posted (List.mem_singleton.mp method)

end Site

namespace Run

open Site

/-- Whatever the state that has been reached, and whatever the request: only what is posted to a
route, and is not refused for its length or for coming too often, changes an account or a texture.
Where a session is needed, a request without one fails and changes nothing, and one with a session
leaves every other account as it is. A registration adds at most one account, and a login begins a
session for the account of the name or adds one of that name. A request that fails changes no
account, but for a deletion that cannot remove a texture after the row is gone. What a request
leaves is again a state that can be reached. -/
theorem request_isolation {x : Run} (reached : Reached SeesStored x)
    (limiter : Option RateLimit.Limiter) (limit : Option Nat) (s : Scene) (q : Request) :
    let done := (respond limit s q).run ⟨x.registry, limiter⟩
    let p := done.1
    let before := x.registry
    let after := done.2.registry
    (q.method ≠ "POST" ∨ Route.ofPath? q.path = none ∨ p.status = 413 ∨ p.status = 429 →
      after.accounts = before.accounts ∧ after.textures = before.textures) ∧
    (∀ route, Route.ofPath? q.path = some route → route.NeedsSession →
      ((∀ a, ¬Recognizes s q before.accounts a) → ¬p.Succeeds ∧
        after.accounts = before.accounts ∧ after.textures = before.textures) ∧
      ∀ a, Recognizes s q before.accounts a →
        AccountTable.SameBut a.id before.accounts after.accounts) ∧
    (Route.ofPath? q.path = some .register → after.textures = before.textures ∧
      (after.accounts = before.accounts ∨ ∃ form added,
        form? limit q RegisterRequest.ofForm? = some form ∧ added.username = form.username ∧
          after.accounts = before.accounts.add added)) ∧
    (Route.ofPath? q.path = some .login → after.textures = before.textures ∧
      (after.accounts = before.accounts ∨ ∃ form,
        form? limit q LoginRequest.ofForm? = some form ∧
        ((∃ row ∈ before.accounts.rows, row.account.username = form.username ∧ ∃ session,
          after.accounts = before.accounts.withSession row.account.id session) ∨
        ∃ added, added.username = form.username ∧
          after.accounts = before.accounts.add added))) ∧
    (¬p.Succeeds → after.accounts = before.accounts ∨
      Route.ofPath? q.path = some .deleteAccount ∧ p.status = 500 ∧
        HalfDeleted s q before.accounts after.accounts) ∧
    ∃ y, Later SeesStored x y ∧ y.registry = after := by
  intro done p before after
  have coherent : before.accounts.Coherent := reached.coherent
  have valid : before.accounts.All Account.HasContentHashes := reached.contentHashes
  have served : (respond limit s q).run ⟨before, limiter⟩ = (p, done.2) := rfl
  rcases respond_cases served with
    ⟨same, fails⟩ | ⟨route, visited, known, method, visits, same, answer⟩
  · have same : after = before := same
    rw [same]
    exact ⟨fun _ => ⟨rfl, rfl⟩, fun _ _ _ => ⟨fun _ => ⟨fails, rfl, rfl⟩, fun _ _ => .refl _ _⟩,
      fun _ => ⟨rfl, .inl rfl⟩, fun _ => ⟨rfl, .inl rfl⟩, fun _ => .inl rfl, x, .refl, rfl⟩
  · have same : after = visited.2 := same
    rw [same, answer, known, status_asSent, succeeds_asSent]
    refine ⟨?_, ?_, ?_, ?_, ?_, ?_⟩
    · rintro (posted | unrouted | refused)
      · have unchanged := visits.looks (isPost_of_method method posted)
        rw [unchanged]
        exact ⟨rfl, rfl⟩
      · cases unrouted
      · exact visits.refused_without_change coherent valid refused
    · rintro _ ⟨⟩ needed
      refine ⟨fun none => ?_, fun a own => visits.same_but needed coherent valid own⟩
      obtain ⟨fails, unchanged⟩ := visits.without_session needed none
      rw [unchanged]
      exact ⟨fails, rfl, rfl⟩
    · rintro ⟨⟩
      exact visits.register_adds
    · rintro ⟨⟩
      exact visits.login_begins coherent
    · intro fails
      rcases visits.fails_without_change coherent valid fails with unchanged | ⟨rfl, rest⟩
      · exact .inl unchanged
      · exact .inr ⟨rfl, rest⟩
    · rcases visits.acts with unchanged | ⟨op, performed, recognized⟩
      · exact ⟨x, .refl, unchanged.symm⟩
      · have admitted : SeesStored x s op := by
          intro a form updates
          have stored := (recognized a form updates).stored coherent
          exact ⟨_, List.mem_cons_self, _, stored, rfl, rfl⟩
        obtain ⟨y, later, -, left⟩ := reached.perform admitted
        exact ⟨y, later, left.trans performed.symm⟩

/-- Someone asks for the account of Alice to be deleted, with these headers. -/
def farewell (headers : List (String × String)) : Request :=
  ⟨"POST", "/delete-account", headers, .empty, none⟩

/-- The cookie that Alice was given. -/
def aliceCookie : String × String := ("cookie", "browserToken=" ++ Scene.plain.random.token 2)

/-- Without her cookie nothing happens to the account of Alice; with it, nothing happens to any
other account. -/
theorem farewell_needs_cookie :
    ¬((respond none .plain (farewell [])).run ⟨Alice.registry, none⟩).1.Succeeds ∧
    ((respond none .plain (farewell [])).run ⟨Alice.registry, none⟩).2.registry.accounts =
      Alice.registry.accounts ∧
    Recognizes .plain (farewell [aliceCookie]) Alice.registry.accounts Alice.account ∧
    AccountTable.SameBut 1 Alice.registry.accounts
      ((respond none .plain (farewell [aliceCookie])).run
        ⟨Alice.registry, none⟩).2.registry.accounts := by
  have reached : Reached SeesStored Alice.run := Alice.reached fun _ _ same => nomatch same
  have stranger : ∀ a, ¬Recognizes .plain (farewell []) Alice.registry.accounts a := by
    rintro a ⟨token, shown, -⟩
    have none : (farewell []).sessionToken? = none := by decide +kernel
    rw [none] at shown
    cases shown
  have alice :
      Recognizes .plain (farewell [aliceCookie]) Alice.registry.accounts Alice.account := by
    have coherent : Alice.registry.accounts.Coherent := reached.coherent
    have given : Scene.plain.random.token 2 ≠ "" := by decide +kernel
    refine ⟨Scene.plain.random.token 2, by decide +kernel, ?_⟩
    refine (coherent.resolve_iff given _ _ _).mpr ⟨List.mem_cons_self, rfl, fun _ => ?_⟩
    exact ⟨_, rfl, by decide⟩
  have route : ∀ headers, Route.ofPath? (farewell headers).path = some .deleteAccount := by
    intro headers
    have path : (farewell headers).path = (farewell []).path := rfl
    rw [path]
    decide +kernel
  obtain ⟨-, without, -⟩ := request_isolation reached none none .plain (farewell [])
  obtain ⟨-, own, -⟩ := request_isolation reached none none .plain (farewell [aliceCookie])
  obtain ⟨fails, unchanged, -⟩ := (without .deleteAccount (route _) trivial).1 stranger
  exact ⟨fails, unchanged, alice, (own .deleteAccount (route _) trivial).2 Alice.account alice⟩

end Run

end PlayerRegistry
