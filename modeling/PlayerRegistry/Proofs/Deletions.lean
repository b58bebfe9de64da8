import PlayerRegistry.Proofs.RetiredIds
import PlayerRegistry.Proofs.Registrations

/-!
# Deletions as a whole

A deletion ends the session, takes the row out of the table and then tries to remove each recorded
texture, the skin first. What the texture store refuses is reported, and undoes nothing.
-/

namespace PlayerRegistry

open Texture (Kind)

namespace Flow

variable {σ α β : Type}

/-- The steps that a flow takes when it runs alone. -/
def taken : Flow σ α → σ → List (σ → σ)
  | done _, _ => []
  | step update next, s => update :: (next s).taken (update s)

/-- A run is its steps, one after another. -/
theorem run_eq_foldl (f : Flow σ α) (s : σ) :
    (f.run s).2 = (f.taken s).foldl (fun s update => update s) s := by
  induction f generalizing s with
  | done a => rfl
  | step update next ih => exact ih s (update s)

theorem taken_bind (f : Flow σ α) (k : α → Flow σ β) (s : σ) :
    (f >>= k).taken s = f.taken s ++ (k (f.run s).1).taken (f.run s).2 := by
  induction f generalizing s with
  | done a => rfl
  | step update next ih => exact congrArg (update :: ·) (ih s (update s))

end Flow

theorem Work.taken_bind_ok {α β : Type} {w : Work α} {a : α} {r r' : Registry}
    (done : perform w r = (.ok a, r')) (k : α → Work β) :
    (ExceptT.run (w >>= k)).taken r =
      (ExceptT.run w).taken r ++ (ExceptT.run (k a)).taken r' := by
  rw [perform] at done
  rw [ExceptT.run_bind, Flow.taken_bind, done]

namespace Scene

theorem taken_discard (s : Scene) (kind : Kind) (hash : String) (r : Registry) :
    (ExceptT.run (Texture.discard s kind hash)).taken r = [s.removal (kind, hash)] := by
  refine congrArg (· :: []) (funext fun r => ?_)
  rw [removal]
  by_cases refuses : s.refuses .delete kind = true
  · simp [refuses]
  · simp [refuses]

theorem taken_discardIf (s : Scene) (kind : Kind) (hash : Option String) (r : Registry) :
    (ExceptT.run (s.discardIf kind hash)).taken r =
      (hash.map (kind, ·)).toList.map s.removal := by
  cases hash with
  | none => rfl
  | some hash => exact taken_discard s kind hash r

theorem taken_discardBoth (s : Scene) (a : Account) (r : Registry) :
    (ExceptT.run (both (s.discardIf .skin a.profile.skinHash)
      (s.discardIf .cape a.profile.capeHash))).taken r = a.textures.map s.removal := by
  rw [both]
  change Flow.taken (ExceptT.run (s.discardIf .skin _) >>= _) r = _
  rw [Flow.taken_bind]
  rw [Flow.taken_bind, taken_discardIf, taken_discardIf, Account.textures, List.map_append]
  exact congrArg _ (List.append_nil _)

/-- The session ends, the row goes, and then each texture has its turn, whatever comes of it. -/
theorem taken_deleteAccount {a : Account} {r : Registry}
    (held : ∃ x ∈ r.accounts.rows, x.account.id = a.id) (s : Scene) :
    (ExceptT.run (s.deleteAccount a)).taken r =
    (fun r => { r with accounts := r.accounts.clearSession a.id }) ::
      (fun r => { r with accounts := (r.accounts.delete a.id).2 }) ::
        a.textures.map s.removal := by
  rw [deleteAccount, Work.taken_bind_ok (perform_logout a r),
    Work.taken_bind_ok (perform_delete_of_held held), taken_discardBoth]
  rfl

end Scene

namespace AccountTable

theorem mem_without {t : AccountTable} {id : Int} {x : Row} :
    x ∈ (t.without id).rows ↔ x ∈ t.rows ∧ x.account.id ≠ id := by
  simp [without]

theorem Coherent.without {t : AccountTable} (h : t.Coherent) {id : Int}
    (held : ∃ x ∈ t.rows, x.account.id = id) : (t.without id).Coherent := by
  have kept := h.delete id
  rcases delete_cases t id with ⟨gone, -⟩ | ⟨-, he⟩
  · obtain ⟨x, hx, same⟩ := held
    exact absurd same (gone x hx)
  · rwa [he] at kept

end AccountTable

/-- Two events that write a token are the same event, if no token is written twice. -/
theorem SessionEvent.eq_of_token {events : List SessionEvent}
    (fresh : (events.filterMap token?).Nodup) {e e' : SessionEvent} (he : e ∈ events)
    (he' : e' ∈ events) {token : String} (writes : e.token? = some token)
    (writes' : e'.token? = some token) : e = e' := by
  by_contra other
  have apart := List.pairwise_filterMap.mp fresh
  have : Std.Symm fun e e' : SessionEvent =>
      ∀ b, e.token? = some b → ∀ b', e'.token? = some b' → b ≠ b' :=
    ⟨fun _ _ h b hb b' hb' => (h b' hb' b hb).symm⟩
  exact apart.forall he he' other token writes token writes' rfl

namespace Run

open AccountTable (Live)

variable {admits : Run → Scene → Operation → Prop} {x : Run}

/-- Once the row of an account is gone, none of its tokens is good for anything. -/
theorem Reached.resolve_without (reached : Reached admits x) {id : Int}
    (held : ∃ y ∈ x.registry.accounts.rows, y.account.id = id) (fresh : x.writtenTokens.Nodup)
    {token : String} {expiresAt : Option Instant}
    (began : .began id token expiresAt ∈ x.sessionEvents) (enforce : Bool) (now : Instant) :
    (x.registry.accounts.without id).resolve enforce now token = .ok none := by
  have coherent := reached.coherent.without held
  obtain ⟨found, hf⟩ := coherent.resolve_ok enforce now token
  cases found with
  | none => exact hf
  | some b =>
    have given : token ≠ "" := by
      rintro rfl
      simp [AccountTable.resolve] at hf
    obtain ⟨hb, has, -⟩ := (coherent.resolve_iff given enforce now b).mp hf
    obtain ⟨hb, other⟩ := AccountTable.mem_without.mp hb
    have columns : b.session = ⟨some token, b.session.expiresAt⟩ := by rw [← has]
    obtain ⟨after, before, events, -⟩ := (reached.follows _ _ _).mp ⟨_, hb, rfl, columns⟩
    have other' : .began b.id token b.session.expiresAt ∈ x.sessionEvents := by simp [events]
    have same := SessionEvent.eq_of_token fresh began other' rfl rfl
    cases same
    exact absurd rfl other

end Run

namespace Scene

/-- Of the accounts that were there, a registration clashes with those that are left only. -/
theorem register_ok_iff_without {s : Scene} {r r' : Registry} {id : Int} {q : RegisterRequest}
    {u : Uuid} {cost : Argon2.Cost} {key : SigningKey}
    (assembled : Service.assemble s.service.config cost key = .ok s.service)
    (supplied : s.Supplied r') (new : q.existingPlayer = false)
    (coherent : (r.accounts.without id).Coherent) (left : r'.accounts = r.accounts.without id)
    (permits : s.Permits r' q u) :
    (∃ made r'', (s.register q).perform r' = (.ok made, r'')) ↔
      ∀ y ∈ r.accounts.rows, y.account.id ≠ id → ¬Meets y.account q u := by
  obtain ⟨config, credentials⟩ := Service.parts_of_assemble assembled
  have minLength := congrArg Credentials.minLength credentials
  rw [register_ok_iff config minLength new supplied (left ▸ coherent)]
  constructor
  · rintro ⟨v, registers⟩ y hy other
    have same : some v = some u :=
      (gives_iff.mp registers.uuid).symm.trans (gives_iff.mp permits.uuid)
    obtain rfl := Option.some.inj same
    exact registers.free y (left ▸ AccountTable.mem_without.mpr ⟨hy, other⟩)
  · intro free
    refine ⟨u, permits, ?_⟩
    rw [left]
    intro y hy
    obtain ⟨hy, other⟩ := AccountTable.mem_without.mp hy
    exact free y hy other

/-- What comes of a deletion that finds the row of its account. -/
structure Deletes (s : Scene) (x : Run) (a : Account) (result : Result Unit) (r : Registry) :
    Prop where
  /-- The row is gone, and every other one is as it was. -/
  accounts : r.accounts = x.registry.accounts.without a.id
  /-- No token that the account has ever had is good for anything. -/
  revoked : x.writtenTokens.Nodup → ∀ token expiresAt,
    .began a.id token expiresAt ∈ x.sessionEvents →
      ∀ enforce now, r.accounts.resolve enforce now token = .ok none
  /-- What the account alone could have belongs to nobody. -/
  free : ∀ y ∈ x.registry.accounts.rows, y.account.id = a.id → ∀ z ∈ r.accounts.rows,
    z.account.username ≠ y.account.username ∧
      z.account.profile.playerName ≠ y.account.profile.playerName ∧
      z.account.uuid ≠ y.account.uuid
  /-- A new registration is refused over its name or its UUID only where another account has one of
  them. -/
  registers : ∀ (s' : Scene) cost key,
    Service.assemble s'.service.config cost key = .ok s'.service → s'.Supplied r →
      ∀ q, q.existingPlayer = false → ∀ u, s'.Permits r q u →
        ((∃ made r', (s'.register q).perform r = (.ok made, r')) ↔
          ∀ y ∈ x.registry.accounts.rows, y.account.id ≠ a.id → ¬Meets y.account q u)
  /-- Each recorded texture has its turn, the skin first, and there are no other steps after those
  on the account table. -/
  attempts : (ExceptT.run (s.deleteAccount a)).taken x.registry =
    (fun r => { r with accounts := r.accounts.clearSession a.id }) ::
      (fun r => { r with accounts := (r.accounts.delete a.id).2 }) :: a.textures.map s.removal
  /-- The first failure is reported, if there is one. -/
  result : result = stopAt (firstFault (a.textures.map s.removalFault))
  /-- A texture is gone where its removal has not failed, and no other one is touched. -/
  textures : ∀ key, r.textures.map key =
    if key ∈ a.textures ∧ s.removalFault key = none then none else x.registry.textures.map key

end Scene

/-- A deletion of an account whose row is there takes it out of the table, whatever the texture
store does, and whether or not what it has seen of the account is still so. Both recorded textures
are attempted. Without the row nothing changes. -/
theorem deletion_completes {admits : Run → Scene → Operation → Prop} {x : Run}
    (reached : Run.Reached admits x) (s : Scene) (a : Account) {result : Result Unit}
    {r : Registry} (done : (s.deleteAccount a).perform x.registry = (result, r)) :
    ((∃ y ∈ x.registry.accounts.rows, y.account.id = a.id) → s.Deletes x a result r) ∧
    ((∀ y ∈ x.registry.accounts.rows, y.account.id ≠ a.id) →
      result = .error (.notFound "Account not found") ∧ r = x.registry) := by
  constructor
  · intro held
    rw [Scene.perform_deleteAccount_eq held, Prod.mk.injEq] at done
    obtain ⟨reported, rfl⟩ := done
    obtain ⟨textures, left⟩ := s.removals_eq a.textures
      { x.registry with accounts := x.registry.accounts.without a.id }
    have accounts := congrArg Registry.accounts left
    refine ⟨accounts, ?_, ?_, ?_, Scene.taken_deleteAccount held s, reported.symm, ?_⟩
    · intro fresh token expiresAt began enforce now
      rw [accounts]
      exact reached.resolve_without held fresh began enforce now
    · intro y hy own z hz
      rw [accounts] at hz
      obtain ⟨hz, other⟩ := AccountTable.mem_without.mp hz
      have apart : z ≠ y := by
        rintro rfl
        exact other own
      refine ⟨fun same => apart ?_, fun same => apart ?_, fun same => apart ?_⟩
      · exact reached.coherent.usernames z hz y hy (by simp) (congrArg some same)
      · exact reached.coherent.playerNames z hz y hy (by simp) (congrArg some same)
      · exact reached.coherent.uuids z hz y hy (by simp) (congrArg some same)
    · intro s' cost key assembled supplied q new u permits
      exact Scene.register_ok_iff_without assembled supplied new
        (reached.coherent.without held) accounts permits
    · exact s.map_removals a.textures _
  · intro gone
    rw [Scene.deleteAccount_of_gone gone] at done
    cases done
    exact ⟨rfl, rfl⟩

namespace Alice

open Scene (plain)

/-- Skins cannot be removed. -/
def clinging : Scene := { plain with refuses := fun access kind => access = .delete ∧ kind = .skin }

/-- What a request may have seen of Alice, with two textures of which the registry has none. -/
def dressed : Account :=
  { account with profile := { account.profile with
      skinHash := some (String.ofList (List.replicate 64 'a'))
      capeHash := some (String.ofList (List.replicate 64 'b')) } }

/-- Alice is gone with her session, although her skin stays. -/
theorem skin_stays_behind :
    ∃ r, (clinging.deleteAccount dressed).perform registry =
        (.error (.assetStorage "delete:skin refused"), r) ∧ r.accounts.rows = [] ∧
      (∀ enforce now, r.accounts.resolve enforce now (plain.random.token 2) = .ok none) ∧
      (ExceptT.run (clinging.deleteAccount dressed)).taken registry =
        (fun r => { r with accounts := r.accounts.clearSession 1 }) ::
          (fun r => { r with accounts := (r.accounts.delete 1).2 }) ::
            dressed.textures.map clinging.removal := by
  have reached : Run.Reached (fun _ _ _ => True) run := Alice.reached trivial
  rcases done : (clinging.deleteAccount dressed).perform registry with ⟨result, r⟩
  have law := (deletion_completes reached clinging dressed done).1
    ⟨⟨account, true⟩, List.mem_cons_self, rfl⟩
  have first : firstFault (dressed.textures.map clinging.removalFault) =
      some (.assetStorage "delete:skin refused") := rfl
  have reported := law.result
  rw [first] at reported
  refine ⟨r, by rw [reported]; rfl, by rw [law.accounts]; rfl, ?_, law.attempts⟩
  exact law.revoked (List.nodup_singleton _) (plain.random.token 2) new.session.expiresAt
    List.mem_cons_self

end Alice

namespace Carol

open Scene (plain)

def request : RegisterRequest := ⟨"carol", "secret1", none, false⟩

/-- What the fourth draw and the next two make of the request. -/
def new : NewAccount where
  uuid := (plain.random.uuid 3).toText
  username := "carol"
  playerName := "carol"
  password :=
    ⟨plain.random.salt 4, Argon2.hash ⟨8, 1, 1⟩ 32 "secret1".toUTF8 (plain.random.salt 4)⟩
  language := "en"
  skinModel := .classic
  session := (Session.mint (plain.random.token 5) ⟨0⟩).columns

def account : Account := AccountTable.NewAccount.toAccount new 2

/-- Carol would like to be called Alice. -/
def newName : UpdateRequest := ⟨some "alice", none, none, none, none, none⟩

def renamed : Account :=
  { account with profile := { account.profile with playerName := "alice" } }

/-- Two accounts, after six draws. -/
def registry (alice carol : Account) : Registry :=
  ⟨⟨[⟨alice, true⟩, ⟨carol, true⟩], 2⟩, .empty, 6, []⟩

theorem perform_request : (plain.register request).perform Alice.registry =
    (.ok ⟨account, Session.mint (plain.random.token 5) ⟨0⟩⟩, registry Alice.account account) := by
  have free : ∀ x ∈ Alice.registry.accounts.rows, AccountTable.clashes
      (plain.newAccount "carol" "secret1" (plain.random.uuid 3).toText 4) x.account = false := by
    intro x hx
    obtain rfl : x = ⟨Alice.account, true⟩ := List.mem_singleton.mp hx
    decide +kernel
  have created : (plain.createAccount "carol" "secret1" (plain.random.uuid 3).toText).perform
      { Alice.registry with draws := 4 } =
        (.ok ⟨account, Session.mint (plain.random.token 5) ⟨0⟩⟩, registry Alice.account account) :=
    Scene.perform_createAccount_of_free (by decide) free
  exact (Scene.perform_register_of_uuid rfl rfl).trans
    (Work.perform_conflictAs_eq_ok.mpr created)

/-- Both have registered, then Alice has become Bob, and Carol has become Alice. -/
theorem exists_run : ∃ x, Run.Reached (fun _ _ _ => True) x ∧
    x.registry = registry Alice.renamed renamed := by
  have started : Run.Reached (fun _ _ _ => True) Alice.run := Alice.reached trivial
  have aliceUpdates : (plain.updateProfile Alice.account Alice.newName).perform
      (registry Alice.account account) = (.ok Alice.renamed, registry Alice.renamed account) := rfl
  have carolUpdates : (plain.updateProfile account newName).perform
      (registry Alice.renamed account) = (.ok renamed, registry Alice.renamed renamed) := rfl
  obtain ⟨x₁, reached₁, now₁⟩ :=
    started.exists_after plain (.register request) trivial rfl rfl perform_request
  obtain ⟨x₂, reached₂, now₂⟩ :=
    reached₁.exists_after plain (.update Alice.account Alice.newName) trivial rfl now₁ aliceUpdates
  obtain ⟨x₃, reached₃, now₃⟩ :=
    reached₂.exists_after plain (.update account newName) trivial rfl now₂ carolUpdates
  exact ⟨x₃, reached₃, now₃⟩

/-- The username of a deleted account is no use to a new one as long as it is the player name of
another. -/
theorem username_stays_in_use :
    ∃ x, Run.Reached (fun _ _ _ => True) x ∧
      (⟨Alice.renamed, true⟩ : Row) ∈ x.registry.accounts.rows ∧
      Alice.request.username = Alice.renamed.username ∧
      ∃ r, (plain.deleteAccount Alice.renamed).perform x.registry = (.ok (), r) ∧
        plain.Permits r Alice.request (plain.random.uuid r.draws) ∧
        ((plain.register Alice.request).perform r).1 =
          .error (.conflict "That username is taken.") := by
  obtain ⟨x, reached, now⟩ := exists_run
  have clash : AccountTable.clashes
      (plain.newAccount "alice" "secret1" (plain.random.uuid 6).toText 7) renamed = true := by
    simp [AccountTable.clashes, Scene.newAccount, renamed]
  let left : Registry := ⟨⟨[⟨renamed, true⟩], 2⟩, .empty, 6, []⟩
  have refused : (plain.createAccount "alice" "secret1" (plain.random.uuid 6).toText).perform
      { left with draws := 7 } = (.error AccountTable.taken, { left with draws := 9 }) :=
    Scene.perform_createAccount_of_clash (by decide) ⟨_, List.mem_cons_self, clash⟩
  have reworded : (Work.conflictAs "That username is taken."
      (plain.createAccount "alice" "secret1" (plain.random.uuid 6).toText)).perform
        { left with draws := 7 } =
      (.error (.conflict "That username is taken."), { left with draws := 9 }) := by
    rw [Work.perform_conflictAs, refused]
    rfl
  have done : (plain.register Alice.request).perform left =
      (.error (.conflict "That username is taken."), { left with draws := 9 }) :=
    (Scene.perform_register_of_uuid rfl rfl).trans reworded
  refine ⟨x, reached, by rw [now]; exact List.mem_cons_self, rfl, left, by rw [now]; rfl,
    ⟨⟨by decide, by decide⟩, ⟨by decide, by decide⟩, rfl, fun chosen => absurd chosen (by decide),
      .drawn rfl⟩, ?_⟩
  rw [done]

end Carol

end PlayerRegistry
