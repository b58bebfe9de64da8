import PlayerRegistry.Proofs.Runs

/-!
# The history of sessions

Which account a token belongs to can be read off the transcript of a run: a session lasts from the
statement that wrote its token for the account until the next statement that writes or clears the
session of that account or deletes it. Nothing else that is done to accounts matters.
-/

namespace PlayerRegistry

open AccountTable (Statement)

/-- What happens to the session of an account. -/
inductive SessionEvent where
  | began (id : Int) (token : String) (expiresAt : Option Instant)
  | ended (id : Int)

namespace SessionEvent

def account : SessionEvent → Int
  | began id _ _ => id
  | ended id => id

/-- The token that is written. -/
def token? : SessionEvent → Option String
  | began _ token _ => some token
  | ended _ => none

/-- The last event of an account began a session with this token and expiry. Events are listed with
the last one first. -/
def LastBegan (events : List SessionEvent) (id : Int) (token : String)
    (expiresAt : Option Instant) : Prop :=
  ∃ after before, events = after ++ began id token expiresAt :: before ∧
    ∀ e ∈ after, e.account ≠ id

theorem lastBegan_cons {e : SessionEvent} {events : List SessionEvent} {id : Int}
    {token : String} {expiresAt : Option Instant} :
    LastBegan (e :: events) id token expiresAt ↔
      e = began id token expiresAt ∨ e.account ≠ id ∧ LastBegan events id token expiresAt := by
  constructor
  · rintro ⟨after, before, split, others⟩
    cases after with
    | nil => exact .inl (List.cons.inj split).1
    | cons first after =>
      obtain ⟨rfl, rest⟩ := List.cons.inj split
      refine .inr ⟨others e (by simp), after, before, rest, ?_⟩
      intro e' he'
      exact others e' (List.mem_cons_of_mem _ he')
  · rintro (rfl | ⟨other, after, before, rfl, others⟩)
    · exact ⟨[], events, rfl, by simp⟩
    · refine ⟨e :: after, before, rfl, ?_⟩
      intro e' he'
      rcases List.mem_cons.mp he' with rfl | he'
      · exact other
      · exact others e' he'

end SessionEvent

/-- What a statement means for sessions. One that fails means nothing. -/
def Entry.event? (e : Entry) : Option SessionEvent :=
  match e.statement, (e.statement.run e.before).1 with
  | .create new, .ok () =>
    new.session.token.map fun token =>
      .began (e.before.lastId + 1 : Nat) token new.session.expiresAt
  | .setSession id token expiresAt, .ok () => some (.began id token (some expiresAt))
  | .clearSession id, _ => some (.ended id)
  | .delete id, .ok () => some (.ended id)
  | _, _ => none

/-- The events of a run, the last one first. -/
def Run.sessionEvents (x : Run) : List SessionEvent := x.transcript.filterMap Entry.event?

/-- The tokens that a run has written. -/
def Run.writtenTokens (x : Run) : List String := x.sessionEvents.filterMap SessionEvent.token?

namespace AccountTable

open SessionEvent (LastBegan)

/-- A row has these session columns. -/
def HasSession (t : AccountTable) (id : Int) (session : SessionColumns) : Prop :=
  ∃ x ∈ t.rows, x.account.id = id ∧ x.account.session = session

/-- The session columns are what the events say. -/
def Follows (t : AccountTable) (events : List SessionEvent) : Prop :=
  ∀ id token expiresAt,
    t.HasSession id ⟨some token, expiresAt⟩ ↔ LastBegan events id token expiresAt

theorem hasSession_modify {t : AccountTable} {id : Int} {f : Row → Row}
    (ids : ∀ x, (f x).account.id = x.account.id) {id' : Int} {session : SessionColumns} :
    (t.modify id f).HasSession id' session ↔
      ∃ x ∈ t.rows, x.account.id = id' ∧
        (if id' = id then (f x).account.session else x.account.session) = session := by
  constructor
  · rintro ⟨x', hx', hid, same⟩
    obtain ⟨x, hx, rfl⟩ := mem_modify.mp hx'
    by_cases h : x.account.id = id
    · rw [if_pos h] at hid same
      rw [ids] at hid
      exact ⟨x, hx, hid, by rw [if_pos (hid ▸ h)]; exact same⟩
    · rw [if_neg h] at hid same
      exact ⟨x, hx, hid, by rw [if_neg (hid ▸ h)]; exact same⟩
  · rintro ⟨x, hx, rfl, same⟩
    refine ⟨if x.account.id = id then f x else x, mem_modify.mpr ⟨x, hx, rfl⟩, ?_⟩
    by_cases h : x.account.id = id
    · rw [if_pos h] at same ⊢
      exact ⟨ids x, same⟩
    · rw [if_neg h] at same ⊢
      exact ⟨rfl, same⟩

/-- One event more: it decides about its own account, and nothing changes for the others. -/
theorem Follows.event {t t' : AccountTable} {events : List SessionEvent} (h : t.Follows events)
    (e : SessionEvent)
    (own : ∀ token expiresAt, t'.HasSession e.account ⟨some token, expiresAt⟩ ↔
      e = .began e.account token expiresAt)
    (others : ∀ id session, id ≠ e.account →
      (t'.HasSession id session ↔ t.HasSession id session)) : t'.Follows (e :: events) := by
  intro id token expiresAt
  rw [SessionEvent.lastBegan_cons]
  by_cases hid : id = e.account
  · subst hid
    rw [own]
    simp
  · rw [others id _ hid, h id token expiresAt]
    constructor
    · intro last
      exact .inr ⟨Ne.symm hid, last⟩
    · rintro (rfl | ⟨-, last⟩)
      · exact absurd rfl hid
      · exact last

theorem Follows.create {t : AccountTable} {events : List SessionEvent} (h : t.Follows events)
    (coherent : t.Coherent) (new : NewAccount) :
    (t.create new).2.Follows ((Entry.event? ⟨.create new, t⟩).toList ++ events) := by
  rcases create_cases t new with ⟨-, he⟩ | ⟨-, he⟩
  · simpa [Entry.event?, Statement.run, he, Except.map] using h
  · have added : ∀ id session, (t.create new).2.HasSession id session ↔
        t.HasSession id session ∨ ((t.lastId + 1 : Nat) = id ∧ new.session = session) := by
      intro id session
      simp [he, HasSession, or_and_right, exists_or, NewAccount.toAccount]
    cases written : new.session.token with
    | none =>
      have event : Entry.event? ⟨.create new, t⟩ = none := by
        simp [Entry.event?, Statement.run, he, Except.map, written]
      rw [event]
      intro id token expiresAt
      have notNew : new.session ≠ ⟨some token, expiresAt⟩ := by
        intro same
        simp [same] at written
      rw [added, Option.toList_none, List.nil_append, ← h id token expiresAt]
      simp [notNew]
    | some token =>
      have event : Entry.event? ⟨.create new, t⟩ =
          some (.began (t.lastId + 1 : Nat) token new.session.expiresAt) := by
        simp [Entry.event?, Statement.run, he, Except.map, written]
      have fresh : ∀ session, ¬t.HasSession (t.lastId + 1 : Nat) session := by
        rintro session ⟨x, hx, hid, -⟩
        have := (coherent.numbered x hx).2
        omega
      have columns : new.session = ⟨some token, new.session.expiresAt⟩ := by
        rw [← written]
      rw [event]
      apply h.event _
      · intro token' expiresAt
        simp only [SessionEvent.account]
        rw [added, or_iff_right (fresh _), columns]
        simp
      · intro id session hid
        rw [added]
        simp only [or_iff_left_iff_imp, and_imp]
        intro same
        exact absurd same.symm hid

theorem Follows.save {t : AccountTable} {events : List SessionEvent} (h : t.Follows events)
    (a : Account) : (t.save a).2.Follows events := by
  rcases save_cases t a with ⟨-, he⟩ | ⟨-, -, he⟩ | ⟨-, -, he⟩ <;> rw [he]
  · exact h
  · exact h
  · intro id token expiresAt
    rw [← h id token expiresAt]
    dsimp only
    rw [hasSession_modify]
    · simp [HasSession]
    · exact fun _ => rfl

theorem Follows.setSession {t : AccountTable} {events : List SessionEvent} (h : t.Follows events)
    (id : Int) (token : String) (expiresAt : Instant) :
    (t.setSession id token expiresAt).2.Follows
      ((Entry.event? ⟨.setSession id token expiresAt, t⟩).toList ++ events) := by
  rcases setSession_cases t id token expiresAt with ⟨-, he⟩ | ⟨-, -, he⟩ | ⟨⟨x, hx, hid⟩, -, he⟩
  · simpa [Entry.event?, Statement.run, he] using h
  · simpa [Entry.event?, Statement.run, he] using h
  · have event : Entry.event? ⟨.setSession id token expiresAt, t⟩ =
        some (.began id token (some expiresAt)) := by
      simp [Entry.event?, Statement.run, he]
    rw [event, he]
    apply h.event _
    · intro token' expiresAt'
      dsimp only [SessionEvent.account]
      rw [hasSession_modify]
      · simp only [if_true]
        constructor
        · rintro ⟨_, _, _, same⟩
          simpa using same
        · intro same
          exact ⟨x, hx, hid, by simpa using same⟩
      · exact fun _ => rfl
    · intro id' session hid'
      have other : id' ≠ id := hid'
      dsimp only
      rw [hasSession_modify]
      · simp only [if_neg other, HasSession]
      · exact fun _ => rfl

theorem Follows.clearSession {t : AccountTable} {events : List SessionEvent}
    (h : t.Follows events) (id : Int) : (t.clearSession id).Follows (.ended id :: events) := by
  rw [AccountTable.clearSession]
  apply h.event _
  · intro token expiresAt
    rw [hasSession_modify]
    · simp [SessionEvent.account]
    · exact fun _ => rfl
  · intro id' session hid
    have other : id' ≠ id := hid
    rw [hasSession_modify]
    · simp only [if_neg other, HasSession]
    · exact fun _ => rfl

theorem Follows.delete {t : AccountTable} {events : List SessionEvent} (h : t.Follows events)
    (id : Int) :
    (t.delete id).2.Follows ((Entry.event? ⟨.delete id, t⟩).toList ++ events) := by
  rcases delete_cases t id with ⟨-, he⟩ | ⟨-, he⟩
  · simpa [Entry.event?, Statement.run, he] using h
  · have event : Entry.event? ⟨.delete id, t⟩ = some (.ended id) := by
      simp [Entry.event?, Statement.run, he]
    rw [event, he]
    apply h.event _
    · intro token expiresAt
      refine iff_of_false ?_ (by simp)
      rintro ⟨x, hx, hid, -⟩
      have other : x.account.id ≠ id := by simpa using (List.mem_filter.mp hx).2
      exact other hid
    · intro id' session hid
      have other : id' ≠ id := hid
      constructor
      · rintro ⟨x, hx, hxid, same⟩
        exact ⟨x, (List.mem_filter.mp hx).1, hxid, same⟩
      · rintro ⟨x, hx, hxid, same⟩
        exact ⟨x, List.mem_filter.mpr ⟨hx, by simpa [hxid] using other⟩, hxid, same⟩

/-- The session columns follow the events of every statement. -/
theorem Follows.run {t : AccountTable} {events : List SessionEvent} (h : t.Follows events)
    (coherent : t.Coherent) (stmt : Statement) :
    (stmt.run t).2.Follows ((Entry.event? ⟨stmt, t⟩).toList ++ events) := by
  cases stmt with
  | create new => exact h.create coherent new
  | save a => exact h.save a
  | setSession id token expiresAt => exact h.setSession id token expiresAt
  | clearSession id => exact h.clearSession id
  | delete id => exact h.delete id

/-- A session that is not over at an instant; every session is, where expiry is not enforced. -/
def Live (enforce : Bool) (now : Instant) (expiresAt : Option Instant) : Prop :=
  enforce = true → ∃ e, expiresAt = some e ∧ now.nanos < e.nanos

theorem live_iff (enforce : Bool) (now : Instant) (a : Account) :
    (!enforce || Session.isLive a now) = true ↔ Live enforce now a.session.expiresAt := by
  cases enforce with
  | false => simp [Live]
  | true =>
    cases h : a.session.expiresAt with
    | none => simp [Live, Session.isLive, h]
    | some e => simp [Live, Session.isLive, h]

theorem Coherent.resolve_ok {t : AccountTable} (h : t.Coherent) (enforce : Bool) (now : Instant)
    (token : String) : ∃ found, t.resolve enforce now token = .ok found := by
  rw [resolve]
  split
  · exact ⟨none, rfl⟩
  · obtain ⟨found, hf⟩ := h.find_ok (·.session.token = some token)
    exact ⟨_, by rw [findByToken, hf]; rfl⟩

/-- A token resolves to the one row that has it, as long as the session of the row is live. -/
theorem Coherent.resolve_iff {t : AccountTable} (h : t.Coherent) {token : String}
    (given : token ≠ "") (enforce : Bool) (now : Instant) (a : Account) :
    t.resolve enforce now token = .ok (some a) ↔
      (⟨a, true⟩ : Row) ∈ t.rows ∧ a.session.token = some token ∧
        Live enforce now a.session.expiresAt := by
  rw [resolve]
  rw [if_neg given]
  constructor
  · intro resolved
    obtain ⟨found, hf⟩ := h.find_ok (·.session.token = some token)
    rw [findByToken, hf] at resolved
    have kept : found.filter (fun a => !enforce || Session.isLive a now) = some a :=
      Except.ok.inj resolved
    obtain ⟨rfl, live⟩ := Option.filter_eq_some_iff.mp kept
    obtain ⟨⟨_, readable⟩, hx, rfl, has⟩ := mem_of_find hf
    have readable : readable = true := h.readable _ hx
    exact ⟨readable ▸ hx, by simpa using has, (live_iff enforce now _).mp live⟩
  · rintro ⟨hx, has, live⟩
    have only : ∀ y ∈ t.rows, decide (y.account.session.token = some token) = true →
        y = ⟨a, true⟩ := by
      intro y hy hyt
      have hyt : y.account.session.token = some token := of_decide_eq_true hyt
      exact h.tokens y hy _ hx (by simp [hyt]) (hyt.trans has.symm)
    have found : t.findByToken token = .ok (some a) :=
      h.find_of_mem (x := ⟨a, true⟩) hx (by simpa using has) only
    rw [found]
    simp only [Except.map, Option.filter_some, (live_iff enforce now a).mpr live, if_true]

end AccountTable

namespace Run

open AccountTable (Live)
open SessionEvent (LastBegan)

variable {admits : Run → Scene → Operation → Prop} {x y : Run}

theorem Next.sessionEvents (next : Next admits x y) :
    ∃ new, y.sessionEvents = new ++ x.sessionEvents := by
  cases next with
  | begin => exact ⟨[], rfl⟩
  | quiet => exact ⟨[], rfl⟩
  | @statement transcript r _ _ _ _ stmt _ =>
    exact ⟨(Entry.event? ⟨stmt, r.accounts⟩).toList, by
      cases h : Entry.event? ⟨stmt, r.accounts⟩ <;> simp [Run.sessionEvents, h]⟩

theorem Next.follows (next : Next admits x y) (coherent : x.registry.accounts.Coherent)
    (h : x.registry.accounts.Follows x.sessionEvents) :
    y.registry.accounts.Follows y.sessionEvents := by
  cases next with
  | begin => exact h
  | @quiet _ r update _ _ _ quiet =>
    change (update r).accounts.Follows _
    rw [quiet r]
    exact h
  | @statement _ r update _ _ _ stmt performs =>
    change (update r).accounts.Follows _
    rw [performs r]
    have := h.run coherent stmt
    cases he : Entry.event? ⟨stmt, r.accounts⟩ with
    | none => simpa [Run.sessionEvents, he] using this
    | some e => simpa [Run.sessionEvents, he] using this

/-- The session columns follow the history of the run. -/
theorem Reached.follows (h : Reached admits x) :
    x.registry.accounts.Follows x.sessionEvents := by
  induction h with
  | refl =>
    intro id token expiresAt
    simp [AccountTable.HasSession, start, Registry.empty, AccountTable.empty, Run.sessionEvents,
      LastBegan]
  | @tail x y reached next ih => exact next.follows (Reached.coherent reached) ih

theorem Later.sessionEvents (later : Later admits x y) :
    ∃ new, y.sessionEvents = new ++ x.sessionEvents := by
  induction later with
  | refl => exact ⟨[], rfl⟩
  | tail _ next ih =>
    obtain ⟨new, hnew⟩ := ih
    obtain ⟨newer, hnewer⟩ := next.sessionEvents
    exact ⟨newer ++ new, by rw [hnewer, hnew, List.append_assoc]⟩

theorem Reached.resolve_iff (h : Reached admits x) {token : String} (given : token ≠ "")
    (enforce : Bool) (now : Instant) (id : Int) :
    (∃ a, x.registry.accounts.resolve enforce now token = .ok (some a) ∧ a.id = id) ↔
      ∃ expiresAt, LastBegan x.sessionEvents id token expiresAt ∧ Live enforce now expiresAt := by
  have coherent := h.coherent
  constructor
  · rintro ⟨a, resolved, rfl⟩
    obtain ⟨hx, has, live⟩ := (coherent.resolve_iff given enforce now a).mp resolved
    refine ⟨a.session.expiresAt, (h.follows _ _ _).mp ⟨_, hx, rfl, ?_⟩, live⟩
    rw [← has]
  · rintro ⟨expiresAt, last, live⟩
    obtain ⟨⟨a, readable⟩, hx, hid, columns⟩ := (h.follows _ _ _).mpr last
    have readable : readable = true := coherent.readable _ hx
    subst readable
    dsimp only at hid columns
    refine ⟨a, (coherent.resolve_iff given enforce now a).mpr ⟨hx, ?_, ?_⟩, hid⟩
    · rw [columns]
    · rw [columns]
      exact live

/-- An account has one token at most that resolves to it. -/
theorem Reached.one_token (h : Reached admits x) {enforce enforce' : Bool} {now now' : Instant}
    {token token' : String} {a b : Account}
    (resolved : x.registry.accounts.resolve enforce now token = .ok (some a))
    (resolved' : x.registry.accounts.resolve enforce' now' token' = .ok (some b))
    (same : a.id = b.id) : token = token' := by
  have coherent := h.coherent
  have given : ∀ {enforce now token a},
      x.registry.accounts.resolve enforce now token = .ok (some a) → token ≠ "" := by
    rintro enforce now token a resolved rfl
    simp [AccountTable.resolve] at resolved
  obtain ⟨ha, has, -⟩ := (coherent.resolve_iff (given resolved) _ _ _).mp resolved
  obtain ⟨hb, has', -⟩ := (coherent.resolve_iff (given resolved') _ _ _).mp resolved'
  have rows := coherent.ids _ ha _ hb (by simp) (congrArg some same)
  have accounts : a = b := congrArg Row.account rows
  exact Option.some.inj (has.symm.trans (accounts ▸ has'))

/-- The last event of an account with a token that was written before is an old event. -/
theorem lastBegan_of_append {new old : List SessionEvent}
    (fresh : ((new ++ old).filterMap SessionEvent.token?).Nodup) {id : Int} {token : String}
    {expiresAt : Option Instant} (last : LastBegan (new ++ old) id token expiresAt)
    (written : token ∈ old.filterMap SessionEvent.token?) : LastBegan old id token expiresAt := by
  obtain ⟨after, before, split, others⟩ := last
  -- An event among the new ones would write the token a second time.
  rcases List.append_eq_append_iff.mp split with ⟨rest, rfl, hold⟩ | ⟨rest, rfl, hrest⟩
  · exact ⟨rest, before, hold, fun e he => others e (List.mem_append_right _ he)⟩
  · cases rest with
    | nil => exact ⟨[], before, by simpa using hrest.symm, by simp⟩
    | cons e rest =>
      obtain ⟨rfl, -⟩ := List.cons.inj hrest
      rw [List.filterMap_append] at fresh
      have again : token ∈ (after ++ .began id token expiresAt :: rest).filterMap
          SessionEvent.token? := by
        simp [SessionEvent.token?]
      exact absurd rfl ((List.nodup_append.mp fresh).2.2 token again token written)

/-- A token that does not resolve any more never does again. -/
theorem Reached.stays_dead (h : Reached admits x) (later : Later admits x y)
    (fresh : y.writtenTokens.Nodup) {token : String} (written : token ∈ x.writtenTokens)
    {enforce enforce' : Bool} (stricter : enforce = true → enforce' = true) {now now' : Instant}
    (clock : now.nanos ≤ now'.nanos)
    (dead : x.registry.accounts.resolve enforce now token = .ok none) :
    y.registry.accounts.resolve enforce' now' token = .ok none := by
  have reached : Reached admits y := h.trans later
  obtain ⟨found, hf⟩ := reached.coherent.resolve_ok enforce' now' token
  cases found with
  | none => exact hf
  | some a =>
    have given : token ≠ "" := by
      rintro rfl
      simp [AccountTable.resolve] at hf
    obtain ⟨expiresAt, last, live⟩ :=
      (reached.resolve_iff given enforce' now' a.id).mp ⟨a, hf, rfl⟩
    obtain ⟨new, events⟩ := later.sessionEvents
    rw [writtenTokens, events] at fresh
    rw [events] at last
    have wasLive : Live enforce now expiresAt := by
      intro enforced
      obtain ⟨e, he, before⟩ := live (stricter enforced)
      exact ⟨e, he, by omega⟩
    obtain ⟨b, resolved, -⟩ := (h.resolve_iff given enforce now a.id).mpr
      ⟨expiresAt, lastBegan_of_append fresh last written, wasLive⟩
    simp [dead] at resolved

/-- Whatever has been done to a registry, a token resolves to an account exactly if the last that
happened to the session of the account is that it began with this token, and its time is not over.
An account has one such token at most, the empty token is none, and a token that has ceased to
resolve stays so as long as no token is written twice and the clock does not go back. -/
theorem session_history (h : Reached admits x) :
    (∀ token, token ≠ "" → ∀ enforce now id,
      (∃ a, x.registry.accounts.resolve enforce now token = .ok (some a) ∧ a.id = id) ↔
        ∃ expiresAt, LastBegan x.sessionEvents id token expiresAt ∧
          Live enforce now expiresAt) ∧
    (∀ enforce now, x.registry.accounts.resolve enforce now "" = .ok none) ∧
    (∀ enforce now token, ∃ found, x.registry.accounts.resolve enforce now token = .ok found ∧
      ∀ a ∈ found, (⟨a, true⟩ : Row) ∈ x.registry.accounts.rows) ∧
    (∀ enforce enforce' now now' token token' a b,
      x.registry.accounts.resolve enforce now token = .ok (some a) →
      x.registry.accounts.resolve enforce' now' token' = .ok (some b) →
      a.id = b.id → token = token') ∧
    (∀ y, Later admits x y → y.writtenTokens.Nodup → ∀ token ∈ x.writtenTokens,
      ∀ enforce enforce' now now', (enforce = true → enforce' = true) → now.nanos ≤ now'.nanos →
      x.registry.accounts.resolve enforce now token = .ok none →
      y.registry.accounts.resolve enforce' now' token = .ok none) := by
  refine ⟨?_, ?_, ?_, ?_, ?_⟩
  · intro token given enforce now id
    exact h.resolve_iff given enforce now id
  · intro enforce now
    simp [AccountTable.resolve]
  · intro enforce now token
    obtain ⟨found, hf⟩ := h.coherent.resolve_ok enforce now token
    refine ⟨found, hf, ?_⟩
    rintro a rfl
    have given : token ≠ "" := by
      rintro rfl
      simp [AccountTable.resolve] at hf
    exact ((h.coherent.resolve_iff given enforce now a).mp hf).1
  · intro enforce enforce' now now' token token' a b resolved resolved' same
    exact h.one_token resolved resolved' same
  · intro y later fresh token written enforce enforce' now now' stricter clock dead
    exact h.stays_dead later fresh written stricter clock dead

/-- The token that a registration gives resolves to the new account until its day is over. -/
theorem alice_has_session :
    Reached (fun _ _ _ => True) Alice.run ∧
    ∃ a, Alice.run.registry.accounts.resolve true ⟨0⟩ (Scene.plain.random.token 2) =
      .ok (some a) ∧ a.id = 1 := by
  have reached : Reached (fun _ _ _ => True) Alice.run := Alice.reached trivial
  refine ⟨reached, ?_⟩
  refine ((session_history reached).1 _ (by decide +kernel) true ⟨0⟩ 1).mpr ?_
  refine ⟨Alice.new.session.expiresAt, ⟨[], [], rfl, by simp⟩, ?_⟩
  intro _
  exact ⟨_, rfl, by decide⟩

end Run

end PlayerRegistry
