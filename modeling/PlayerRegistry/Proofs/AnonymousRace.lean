import PlayerRegistry.Proofs.LoginStages

/-!
# Anonymous logins that race

Several anonymous logins under one new name take their steps in any order, while other work goes on
that leaves the name alone. One of them makes the account, and the others come to use it: those that
find it in time, and those whose own account the table refuses. This says what each step does, and
what it finds whatever has happened since the one before.
-/

namespace PlayerRegistry

open AccountTable (Statement)

/-- What the draws from `first` on and below `last` make can be hashed with and is not in use, and
no token is made twice. -/
structure Scene.Unused (s : Scene) (t : AccountTable) (first last : Nat) : Prop where
  salts : ∀ k, first ≤ k → k < last → 8 ≤ (s.random.salt k).size
  tokens : ∀ k, first ≤ k → k < last → s.random.token k ≠ ""
  apart : ∀ j k, first ≤ j → j < last → first ≤ k → k < last →
    s.random.token j = s.random.token k → j = k
  stored : ∀ x ∈ t.rows, ∀ k, first ≤ k → k < last →
    x.account.uuid ≠ (s.random.uuid k).toText ∧
      x.account.session.token ≠ some (s.random.token k)

/-- Anonymous logins at several times with one request, and where they start from: no account has
the name as username or player name. Other work draws only numbers below `last`. -/
structure AnonymousRace where
  scene : Scene
  request : LoginRequest
  times : List Instant
  start : Registry
  last : Nat
  nonempty : times ≠ []
  named : request.username ≠ ""
  anonymous : scene.isAnonymous request = true
  coherent : start.accounts.Coherent
  free : ∀ x ∈ start.accounts.rows, x.account.username ≠ request.username ∧
    x.account.profile.playerName ≠ request.username
  below : start.draws ≤ last
  unused : scene.Unused start.accounts start.draws (last + 4 * times.length)

namespace AnonymousRace

variable {race : AnonymousRace} {t t' : AccountTable} {r r' : Registry} {now : Instant}

def sceneAt (race : AnonymousRace) (now : Instant) : Scene := { race.scene with now }

def Named (race : AnonymousRace) (a : Account) : Prop := a.username = race.request.username

/-- A draw that one of the logins may make. -/
def Ours (race : AnonymousRace) (k : Nat) : Prop :=
  race.start.draws ≤ k ∧ k < race.last + 4 * race.times.length

/-- The account has nothing that a login may draw. -/
def Apart (race : AnonymousRace) (uuid : String) (token : Option String) : Prop :=
  ∀ k, race.Ours k → uuid ≠ (race.scene.random.uuid k).toText ∧
    token ≠ some (race.scene.random.token k)

/-- The statement does not create, rename to or delete the name. It does not set the password or the
session of its account either, and gives nobody what a login may draw. -/
def Leaves (race : AnonymousRace) (t : AccountTable) : Statement → Prop
  | .create new => new.username ≠ race.request.username ∧
      new.playerName ≠ race.request.username ∧ race.Apart new.uuid new.session.token
  | .save a => ∀ x ∈ t.rows, x.account.id = a.id →
      (race.Named x.account → a.profile.password = x.account.profile.password) ∧
      (¬race.Named x.account → a.profile.playerName ≠ race.request.username)
  | .setSession id token _ => (∀ x ∈ t.rows, x.account.id = id → ¬race.Named x.account) ∧
      ∀ k, race.Ours k → token ≠ race.scene.random.token k
  | .clearSession id | .delete id => ∀ x ∈ t.rows, x.account.id = id → ¬race.Named x.account

/-- What may happen in between the steps of the logins. -/
structure Elsewhere (race : AnonymousRace) (r r' : Registry) : Prop where
  accounts : r'.accounts = r.accounts ∨
    ∃ stmt, race.Leaves r.accounts stmt ∧ r'.accounts = (stmt.run r.accounts).2
  draws : r.draws ≤ r'.draws ∧ (r'.draws = r.draws ∨ r'.draws ≤ race.last)

/-- What holds of the table at every moment: an account of the name can be logged in to, and every
other leaves the name and the draws alone. -/
structure Table (race : AnonymousRace) (t : AccountTable) : Prop where
  coherent : t.Coherent
  fits : ∀ x ∈ t.rows, race.Named x.account → 8 ≤ x.account.profile.password.salt.size ∧
    race.scene.service.credentials.Fits race.request.password x.account.profile.password
  others : ∀ x ∈ t.rows, ¬race.Named x.account →
    x.account.profile.playerName ≠ race.request.username ∧
      race.Apart x.account.uuid x.account.session.token

/-- An account of the name stays, with the same id. -/
def Keeps (race : AnonymousRace) (t t' : AccountTable) : Prop :=
  ∀ x ∈ t.rows, race.Named x.account →
    ∃ y ∈ t'.rows, race.Named y.account ∧ y.account.id = x.account.id

/-- An account of the name has this session. -/
def Has (race : AnonymousRace) (t : AccountTable) (session : SessionColumns) : Prop :=
  ∃ x ∈ t.rows, race.Named x.account ∧ x.account.session = session

/-- The rows of other accounts. -/
def others (race : AnonymousRace) (t : AccountTable) : List Row :=
  t.rows.filter fun x => x.account.username ≠ race.request.username

theorem Table.only (h : race.Table t) {x y : Row} (hx : x ∈ t.rows) (hy : y ∈ t.rows)
    (named : race.Named x.account) (named' : race.Named y.account) : x = y :=
  h.coherent.usernames x hx y hy (by simp) (congrArg some (named.trans named'.symm))

section
variable {id : Int} {f : Row → Row}
  (ids : ∀ x, (f x).account.id = x.account.id)
  (usernames : ∀ x, (f x).account.username = x.account.username)

include usernames in
theorem Table.modify (h : race.Table t) (coherent : (t.modify id f).Coherent)
    (fits : ∀ x ∈ t.rows, x.account.id = id → race.Named x.account →
      (f x).account.profile.password = x.account.profile.password)
    (others : ∀ x ∈ t.rows, x.account.id = id → ¬race.Named x.account →
      (f x).account.profile.playerName ≠ race.request.username ∧
        race.Apart (f x).account.uuid (f x).account.session.token) :
    race.Table (t.modify id f) := by
  refine ⟨coherent, fun y hy named => ?_, fun y hy other => ?_⟩
  · obtain ⟨x, hx, rfl⟩ := AccountTable.mem_modify.mp hy
    by_cases hid : x.account.id = id
    · rw [if_pos hid] at named ⊢
      have named' : race.Named x.account := (usernames x).symm.trans named
      rw [fits x hx hid named']
      exact h.fits x hx named'
    · rw [if_neg hid] at named ⊢
      exact h.fits x hx named
  · obtain ⟨x, hx, rfl⟩ := AccountTable.mem_modify.mp hy
    by_cases hid : x.account.id = id
    · rw [if_pos hid] at other ⊢
      exact others x hx hid fun named => other ((usernames x).trans named)
    · rw [if_neg hid] at other ⊢
      exact h.others x hx other

include usernames in
theorem has_modify (sessions : ∀ x ∈ t.rows, x.account.id = id → race.Named x.account →
      (f x).account.session = x.account.session) (session : SessionColumns)
    (h : race.Has t session) : race.Has (t.modify id f) session := by
  obtain ⟨x, hx, named, rfl⟩ := h
  refine ⟨_, AccountTable.mem_modify.mpr ⟨x, hx, rfl⟩, ?_⟩
  by_cases hid : x.account.id = id
  · rw [if_pos hid]
    exact ⟨(usernames x).trans named, sessions x hx hid named⟩
  · rw [if_neg hid]
    exact ⟨named, rfl⟩

include ids usernames in
theorem keeps_modify (race : AnonymousRace) (t : AccountTable) :
    race.Keeps t (t.modify id f) := by
  intro x hx named
  refine ⟨_, AccountTable.mem_modify.mpr ⟨x, hx, rfl⟩, ?_⟩
  by_cases hid : x.account.id = id
  · rw [if_pos hid]
    exact ⟨(usernames x).trans named, ids x⟩
  · rw [if_neg hid]
    exact ⟨named, rfl⟩

include usernames in
theorem others_modify (named : ∀ x ∈ t.rows, x.account.id = id → race.Named x.account) :
    race.others (t.modify id f) = race.others t := by
  simp only [others, AccountTable.modify, List.filter_map]
  have kept : (fun x : Row => decide (x.account.username ≠ race.request.username)) ∘
      (fun x => if x.account.id = id then f x else x) =
        fun x => decide (x.account.username ≠ race.request.username) := by
    funext x
    by_cases hid : x.account.id = id
    · simp [hid, usernames]
    · simp [hid]
  rw [kept]
  refine (List.map_congr_left fun x hx => ?_).trans (List.map_id _)
  obtain ⟨hx, other⟩ := List.mem_filter.mp hx
  exact if_neg fun hid => of_decide_eq_true other (named x hx hid)

end

/-- Other work has left the name alone: its account has stayed, with its id and its session. -/
structure Undisturbed (race : AnonymousRace) (t t' : AccountTable) : Prop where
  table : race.Table t'
  keeps : race.Keeps t t'
  has : ∀ session, race.Has t session → race.Has t' session

theorem Table.undisturbed (h : race.Table t) : race.Undisturbed t t where
  table := h
  keeps x hx named := ⟨x, hx, named, rfl⟩
  has _ := id

theorem Table.undisturbed_append (h : race.Table t) (coherent : t'.Coherent) {x : Row}
    (rows : t'.rows = t.rows ++ [x]) (other : ¬race.Named x.account)
    (playerName : x.account.profile.playerName ≠ race.request.username)
    (apart : race.Apart x.account.uuid x.account.session.token) : race.Undisturbed t t' where
  table := by
    refine ⟨coherent, fun y hy named => ?_, fun y hy other => ?_⟩
    · rcases List.mem_append.mp (rows ▸ hy) with hy | hy
      · exact h.fits y hy named
      · obtain rfl := List.mem_singleton.mp hy
        exact absurd named other
    · rcases List.mem_append.mp (rows ▸ hy) with hy | hy
      · exact h.others y hy other
      · obtain rfl := List.mem_singleton.mp hy
        exact ⟨playerName, apart⟩
  keeps y hy named := ⟨y, rows ▸ List.mem_append_left _ hy, named, rfl⟩
  has := by
    rintro _ ⟨y, hy, named, rfl⟩
    exact ⟨y, rows ▸ List.mem_append_left _ hy, named, rfl⟩

theorem Table.undisturbed_filter (h : race.Table t) (coherent : t'.Coherent) {p : Row → Bool}
    (rows : t'.rows = t.rows.filter p)
    (stays : ∀ x ∈ t.rows, race.Named x.account → p x = true) : race.Undisturbed t t' := by
  have kept : ∀ x ∈ t.rows, race.Named x.account → x ∈ t'.rows := fun x hx named =>
    rows ▸ List.mem_filter.mpr ⟨hx, stays x hx named⟩
  have before : ∀ x ∈ t'.rows, x ∈ t.rows := fun x hx => (List.mem_filter.mp (rows ▸ hx)).1
  refine ⟨⟨coherent, fun x hx => h.fits x (before x hx), fun x hx => h.others x (before x hx)⟩,
    fun x hx named => ⟨x, kept x hx named, named, rfl⟩, ?_⟩
  rintro _ ⟨x, hx, named, rfl⟩
  exact ⟨x, kept x hx named, named, rfl⟩

theorem Table.undisturbed_modify (h : race.Table t) {id : Int} {f : Row → Row}
    (coherent : (t.modify id f).Coherent) (ids : ∀ x, (f x).account.id = x.account.id)
    (usernames : ∀ x, (f x).account.username = x.account.username)
    (same : ∀ x ∈ t.rows, x.account.id = id → race.Named x.account →
      (f x).account.profile.password = x.account.profile.password ∧
        (f x).account.session = x.account.session)
    (others : ∀ x ∈ t.rows, x.account.id = id → ¬race.Named x.account →
      (f x).account.profile.playerName ≠ race.request.username ∧
        race.Apart (f x).account.uuid (f x).account.session.token) :
    race.Undisturbed t (t.modify id f) where
  table := h.modify usernames coherent (fun x hx hid named => (same x hx hid named).1) others
  keeps := keeps_modify ids usernames race t
  has := has_modify usernames fun x hx hid named => (same x hx hid named).2

theorem Table.elsewhere (h : race.Table t) {stmt : Statement} (leaves : race.Leaves t stmt) :
    race.Undisturbed t (stmt.run t).2 := by
  have coherent := h.coherent.run stmt
  cases stmt with
  | create new =>
    obtain ⟨username, playerName, apart⟩ := leaves
    rcases AccountTable.create_cases t new with ⟨-, he⟩ | ⟨-, he⟩
    · rw [Statement.run, he]
      exact h.undisturbed
    · rw [Statement.run, he] at coherent ⊢
      exact h.undisturbed_append coherent rfl username playerName apart
  | save a =>
    rcases AccountTable.save_cases t a with ⟨-, he⟩ | ⟨-, -, he⟩ | ⟨-, -, he⟩
    · rw [Statement.run, he]
      exact h.undisturbed
    · rw [Statement.run, he]
      exact h.undisturbed
    · rw [Statement.run, he] at coherent ⊢
      refine h.undisturbed_modify coherent (fun _ => rfl) (fun _ => rfl) ?_ ?_
      · exact fun x hx hid named => ⟨(leaves x hx hid).1 named, rfl⟩
      · exact fun x hx hid other => ⟨(leaves x hx hid).2 other, (h.others x hx other).2⟩
  | setSession id token expiresAt =>
    rcases AccountTable.setSession_cases t id token expiresAt with
      ⟨-, he⟩ | ⟨-, -, he⟩ | ⟨-, -, he⟩
    · rw [Statement.run, he]
      exact h.undisturbed
    · rw [Statement.run, he]
      exact h.undisturbed
    · rw [Statement.run, he] at coherent ⊢
      refine h.undisturbed_modify coherent (fun _ => rfl) (fun _ => rfl) ?_ ?_
      · exact fun x hx hid named => absurd named (leaves.1 x hx hid)
      · intro x hx _ other
        obtain ⟨playerName, apart⟩ := h.others x hx other
        exact ⟨playerName, fun k ours =>
          ⟨(apart k ours).1, fun same => leaves.2 k ours (Option.some.inj same)⟩⟩
  | clearSession id =>
    refine h.undisturbed_modify coherent (fun _ => rfl) (fun _ => rfl) ?_ ?_
    · exact fun x hx hid named => absurd named (leaves x hx hid)
    · intro x hx _ other
      obtain ⟨playerName, apart⟩ := h.others x hx other
      exact ⟨playerName, fun k ours => ⟨(apart k ours).1, by simp⟩⟩
  | delete id =>
    rcases AccountTable.delete_cases t id with ⟨-, he⟩ | ⟨-, he⟩
    · rw [Statement.run, he]
      exact h.undisturbed
    · rw [Statement.run, he] at coherent ⊢
      refine h.undisturbed_filter coherent rfl fun x hx named => ?_
      exact decide_eq_true fun hid => leaves x hx hid named

section
variable {i j k : Nat} (hi : race.Ours i) (hj : race.Ours j) (hk : race.Ours k)

/-- The account that a login makes. -/
def made (race : AnonymousRace) (now : Instant) (i j k : Nat) : NewAccount :=
  LoginStage.made (race.sceneAt now) race.request i j k

def session (race : AnonymousRace) (now : Instant) (k : Nat) : Session :=
  LoginStage.session (race.sceneAt now) k

include hi hj hk in
theorem Table.creates (h : race.Table t) (now : Instant)
    (nobody : ∀ x ∈ t.rows, ¬race.Named x.account) :
    ∃ a t', t.create (race.made now i j k) = (.ok a, t') ∧ race.Table t' ∧ race.Keeps t t' ∧
      race.others t' = race.others t ∧ ⟨a, true⟩ ∈ t'.rows ∧ race.Named a ∧
      a.session = (race.session now k).columns := by
  have coherent := h.coherent.create (race.made now i j k)
  have unlike : ∀ x ∈ t.rows,
      AccountTable.clashes (race.made now i j k) x.account = false := by
    intro x hx
    obtain ⟨playerName, apart⟩ := h.others x hx (nobody x hx)
    have username : x.account.username ≠ race.request.username := nobody x hx
    have uuid : x.account.uuid ≠ (race.scene.random.uuid i).toText := (apart i hi).1
    have token : x.account.session.token ≠ some (race.scene.random.token k) := (apart k hk).2
    simp [AccountTable.clashes, made, LoginStage.made, LoginStage.session, sceneAt,
      Session.columns, Session.mint, username, playerName, uuid, token]
  rcases AccountTable.create_cases t (race.made now i j k) with ⟨⟨x, hx, clash⟩, -⟩ | ⟨-, he⟩
  · exact absurd (clash.symm.trans (unlike x hx)) (by decide)
  · rw [he] at coherent
    refine ⟨_, _, he, ⟨coherent, fun x hx named => ?_, fun x hx other => ?_⟩,
      fun x hx named => ⟨x, List.mem_append_left _ hx, named, rfl⟩, ?_,
      List.mem_append_right _ List.mem_cons_self, rfl, rfl⟩
    · rcases List.mem_append.mp hx with hx | hx
      · exact h.fits x hx named
      · obtain rfl := List.mem_singleton.mp hx
        exact ⟨race.unused.salts j hj.1 hj.2, rfl⟩
    · rcases List.mem_append.mp hx with hx | hx
      · exact h.others x hx other
      · obtain rfl := List.mem_singleton.mp hx
        exact absurd rfl other
    · simp [AnonymousRace.others, made, LoginStage.made, AccountTable.NewAccount.toAccount]

theorem create_made_refused (now : Instant) {x : Row} (hx : x ∈ t.rows)
    (named : race.Named x.account) :
    t.create (race.made now i j k) = (.error AccountTable.taken, t) := by
  rcases AccountTable.create_cases t (race.made now i j k) with ⟨-, he⟩ | ⟨unlike, -⟩
  · exact he
  · have username : x.account.username = race.request.username := named
    have clash := unlike x hx
    simp [AccountTable.clashes, made, LoginStage.made, username] at clash

include hk in
theorem Table.writes (h : race.Table t) (now : Instant) {x : Row} (hx : x ∈ t.rows)
    (named : race.Named x.account) :
    ∃ t', t.setSession x.account.id (race.session now k).token (race.session now k).expiresAt =
        (.ok (), t') ∧ race.Table t' ∧ race.Keeps t t' ∧ race.others t' = race.others t ∧
      ∃ y ∈ t'.rows, race.Named y.account ∧ y.account.id = x.account.id ∧
        y.account.session = (race.session now k).columns := by
  have same : ∀ y ∈ t.rows, y.account.id = x.account.id → race.Named y.account := by
    intro y hy hid
    rwa [h.coherent.ids y hy x hx (by simp) (congrArg some hid)]
  have coherent := h.coherent.setSession x.account.id (race.session now k).token
    (race.session now k).expiresAt
  rcases AccountTable.setSession_cases t x.account.id (race.session now k).token
    (race.session now k).expiresAt with ⟨missing, -⟩ | ⟨-, ⟨y, hy, hid, token⟩, -⟩ | ⟨-, -, he⟩
  · exact absurd rfl (missing x hx)
  · have other : ¬race.Named y.account := fun named' =>
      hid (congrArg (·.account.id) (h.only hy hx named' named))
    exact absurd token ((h.others y hy other).2 k hk).2
  · rw [he] at coherent
    refine ⟨_, he, h.modify (fun _ => rfl) coherent (fun _ _ _ _ => rfl) ?_, ?_, ?_, ?_⟩
    · exact fun y hy hid other => absurd (same y hy hid) other
    · apply keeps_modify <;> exact fun _ => rfl
    · apply others_modify
      · exact fun _ => rfl
      · exact same
    · exact ⟨_, AccountTable.mem_modify.mpr ⟨x, hx, if_pos rfl⟩, named, rfl, rfl⟩

end

/-- What a stage has seen is still so. -/
def Knows (race : AnonymousRace) (t : AccountTable) : LoginStage → Prop
  | .waiting | .unknown => True
  | .identified i => race.Ours i
  | .salted i j => race.Ours i ∧ race.Ours j
  | .ready i j k => race.Ours i ∧ race.Ours j ∧ race.Ours k
  | .clashed => ∃ x ∈ t.rows, race.Named x.account
  | .known a => ∃ x ∈ t.rows, race.Named x.account ∧ x.account.id = a.id
  | .minted a k | .ended a k =>
    (∃ x ∈ t.rows, race.Named x.account ∧ x.account.id = a.id) ∧ race.Ours k

theorem Knows.later {g : LoginStage} (h : race.Knows t g) (keeps : race.Keeps t t') :
    race.Knows t' g := by
  have still : ∀ a : Account, (∃ x ∈ t.rows, race.Named x.account ∧ x.account.id = a.id) →
      ∃ x ∈ t'.rows, race.Named x.account ∧ x.account.id = a.id := by
    rintro a ⟨x, hx, named, same⟩
    obtain ⟨y, hy, named', same'⟩ := keeps x hx named
    exact ⟨y, hy, named', same'.trans same⟩
  cases g with
  | waiting => trivial
  | unknown => trivial
  | identified i => exact h
  | salted i j => exact h
  | ready i j k => exact h
  | clashed =>
    obtain ⟨x, hx, named⟩ := h
    obtain ⟨y, hy, named', -⟩ := keeps x hx named
    exact ⟨y, hy, named'⟩
  | known a => exact still a h
  | minted a k => exact ⟨still a h.1, h.2⟩
  | ended a k => exact ⟨still a h.1, h.2⟩

end AnonymousRace

namespace LoginStage

/-- The draw of the token that the login holds. -/
def token? : LoginStage → Option Nat
  | ready _ _ k | minted _ k | ended _ k => some k
  | _ => none

/-- The draw of the token that the login has returned. -/
def ended? : LoginStage → Option Nat
  | ended _ k => some k
  | _ => none

/-- How many draws the login may still make. -/
def drawsLeft : LoginStage → Nat
  | waiting | unknown => 4
  | identified _ => 3
  | salted _ _ => 2
  | ready _ _ _ | clashed | known _ => 1
  | minted _ _ | ended _ _ => 0

end LoginStage

namespace AnonymousRace

variable {race : AnonymousRace} {t t' : AccountTable} {r r' : Registry} {now : Instant}

/-- What a step of a login does: it writes to the table at most once, and then it has ended. -/
structure Advance (race : AnonymousRace) (now : Instant) (r : Registry) (g g' : LoginStage)
    (r' : Registry) : Prop where
  takes : (g.flow (race.sceneAt now) race.request).Takes r
    (g'.flow (race.sceneAt now) race.request) r'
  table : race.Table r'.accounts
  keeps : race.Keeps r.accounts r'.accounts
  others : race.others r'.accounts = race.others r.accounts
  knows : race.Knows r'.accounts g'
  draws : r.draws ≤ r'.draws ∧ r'.draws + g'.drawsLeft ≤ r.draws + g.drawsLeft
  token : ∀ k, g'.token? = some k → g.token? = some k ∨ k = r.draws ∧ r.draws < r'.draws
  writes : (r'.accounts = r.accounts ∧ g'.ended? = none) ∨
    ∃ a k, g' = .ended a k ∧ g.token? = some k ∧
      race.Has r'.accounts (race.session now k).columns

theorem given (race : AnonymousRace) :
    ¬(race.request.username = "" ∨ race.request.password = "") := by
  obtain ⟨-, shared, same⟩ := Scene.isAnonymous_iff.mp race.anonymous
  rintro (blank | blank)
  · exact race.named blank
  · exact shared (same.symm.trans blank)

/-- A step that only looks at the table. -/
theorem Advance.of_look {g g' : LoginStage} (h : race.Table r.accounts)
    (takes : (g.flow (race.sceneAt now) race.request).Takes r
      (g'.flow (race.sceneAt now) race.request) r)
    (knows : race.Knows r.accounts g') (fewer : g'.drawsLeft ≤ g.drawsLeft)
    (bare : g'.token? = none) (unfinished : g'.ended? = none) : race.Advance now r g g' r where
  takes := takes
  table := h
  keeps := h.undisturbed.keeps
  others := rfl
  knows := knows
  draws := ⟨le_rfl, by omega⟩
  token k held := by
    rw [bare] at held
    cases held
  writes := .inl ⟨rfl, unfinished⟩

/-- A step that only draws a number. -/
theorem Advance.of_draw {g g' : LoginStage} (h : race.Table r.accounts)
    (takes : (g.flow (race.sceneAt now) race.request).Takes r
      (g'.flow (race.sceneAt now) race.request) { r with draws := r.draws + 1 })
    (knows : race.Knows r.accounts g') (fewer : g'.drawsLeft < g.drawsLeft)
    (own : ∀ k, g'.token? = some k → k = r.draws) (unfinished : g'.ended? = none) :
    race.Advance now r g g' { r with draws := r.draws + 1 } where
  takes := takes
  table := h
  keeps := h.undisturbed.keeps
  others := rfl
  knows := knows
  draws := ⟨Nat.le_succ _, by simp only; omega⟩
  token k held := .inr ⟨own k held, Nat.lt_succ_self _⟩
  writes := .inl ⟨rfl, unfinished⟩

/-- Wherever a login stands that has not ended, it can go on. -/
theorem exists_advance {g : LoginStage} (h : race.Table r.accounts)
    (knows : race.Knows r.accounts g) (since : race.start.draws ≤ r.draws)
    (room : r.draws + g.drawsLeft ≤ race.last + 4 * race.times.length) (now : Instant)
    (unfinished : g.ended? = none) : ∃ g' r', race.Advance now r g g' r' := by
  have next : 0 < g.drawsLeft → race.Ours r.draws := fun some => ⟨since, by omega⟩
  cases g with
  | waiting =>
    rcases h.coherent.findByUsername_cases race.request.username with
      ⟨x, hx, named, found⟩ | ⟨-, unknown⟩
    · obtain ⟨salt, fits⟩ := h.fits x hx named
      have takes := LoginStage.waiting_known (s := race.sceneAt now) race.given found salt fits
      exact ⟨_, _, .of_look h takes ⟨x, hx, named, rfl⟩ (by simp [LoginStage.drawsLeft]) rfl rfl⟩
    · have takes := LoginStage.waiting_unknown (s := race.sceneAt now) race.given unknown
        race.anonymous
      exact ⟨_, _, .of_look h takes trivial le_rfl rfl rfl⟩
  | unknown =>
    have own := next (Nat.succ_pos _)
    exact ⟨_, _, .of_draw h LoginStage.unknown_identified own (Nat.lt_succ_self _) nofun rfl⟩
  | identified i =>
    have own := next (Nat.succ_pos _)
    have salt := race.unused.salts r.draws own.1 own.2
    exact ⟨.salted i r.draws, _, .of_draw h (LoginStage.identified_salted salt) ⟨knows, own⟩
      (Nat.lt_succ_self _) nofun rfl⟩
  | salted i j =>
    have own := next (Nat.succ_pos _)
    refine ⟨_, _, .of_draw h LoginStage.salted_ready ⟨knows.1, knows.2, own⟩
      (Nat.lt_succ_self _) ?_ rfl⟩
    rintro k ⟨⟩
    rfl
  | ready i j k =>
    by_cases somebody : ∃ x ∈ r.accounts.rows, race.Named x.account
    · obtain ⟨x, hx, named⟩ := somebody
      have refused := create_made_refused (i := i) (j := j) (k := k) now hx named
      exact ⟨_, _, .of_look h (LoginStage.ready_clashed refused) ⟨x, hx, named⟩ le_rfl rfl rfl⟩
    · obtain ⟨hi, hj, hk⟩ := knows
      obtain ⟨a, t', created, table, keeps, others, stored, named, session⟩ :=
        h.creates hi hj hk now fun x hx named => somebody ⟨x, hx, named⟩
      exact ⟨.ended a k, _, LoginStage.ready_ended created, table, keeps, others,
        ⟨⟨_, stored, named, rfl⟩, hk⟩, ⟨le_rfl, Nat.le_succ _⟩, fun _ => .inl,
        .inr ⟨a, k, rfl, rfl, _, stored, named, session⟩⟩
  | clashed =>
    obtain ⟨x, hx, named⟩ := knows
    obtain ⟨salt, fits⟩ := h.fits x hx named
    have takes := LoginStage.clashed_known (s := race.sceneAt now)
      (h.coherent.findByUsername_of_mem hx named) salt fits
    exact ⟨_, _, .of_look h takes ⟨x, hx, named, rfl⟩ le_rfl rfl rfl⟩
  | known a =>
    have own := next (Nat.succ_pos _)
    refine ⟨_, _, .of_draw h LoginStage.known_minted ⟨knows, own⟩ (Nat.lt_succ_self _) ?_ rfl⟩
    rintro k ⟨⟩
    rfl
  | minted a k =>
    obtain ⟨⟨x, hx, named, same⟩, hk⟩ := knows
    obtain ⟨t', stored, table, keeps, others, y, hy, named', same', session⟩ :=
      h.writes hk now hx named
    rw [same] at stored same'
    exact ⟨.ended { a with session := (race.session now k).columns } k, _,
      LoginStage.minted_ended stored, table, keeps, others, ⟨⟨y, hy, named', same'⟩, hk⟩,
      ⟨le_rfl, le_rfl⟩, fun _ => .inl, .inr ⟨_, k, rfl, rfl, y, hy, named', session⟩⟩
  | ended a k => cases unfinished

end AnonymousRace

end PlayerRegistry
