import PlayerRegistry.Proofs.AtomicUpdate

/-!
# What operations do to textures

Each step of an operation either leaves the texture store alone or carries out one of the changes
that the operation may make: an update puts the images that it has accepted, and a deletion removes
the recorded textures of its account. No other operation changes a texture.
-/

namespace PlayerRegistry

open Texture (Kind Image)

namespace Texture

/-- One change of a texture store. -/
inductive Change where
  | put (image : Image)
  | delete (kind : Kind) (hash : String)

def Change.run : Change → Store → Store
  | put image, t => (t.put image.kind image.contentHash image.bytes).2
  | delete kind hash, t => (t.delete kind hash).2

end Texture

namespace Work

variable {α β : Type}

/-- The step leaves the textures alone or carries out a change of `T`. -/
def Touches (T : Texture.Change → Prop) (update : Registry → Registry) : Prop :=
  ∀ r, (update r).textures = r.textures ∨
    ∃ change, T change ∧ (update r).textures = change.run r.textures

theorem Touches.mono {T T' : Texture.Change → Prop} {update : Registry → Registry}
    (h : Touches T update) (more : ∀ change, T change → T' change) : Touches T' update := by
  intro r
  rcases h r with same | ⟨change, ht, changed⟩
  · exact .inl same
  · exact .inr ⟨change, more change ht, changed⟩

theorem touches_of_same {T : Texture.Change → Prop} {update : Registry → Registry}
    (same : ∀ r, (update r).textures = r.textures) : Touches T update := fun r => .inl (same r)

/-- Work that makes no other changes to textures than those of `T`. -/
abbrev Spares (T : Texture.Change → Prop) (w : Work α) : Prop :=
  Within (Touches T) (fun _ => True) w

section
variable {T : Texture.Change → Prop}

/-- What is known of the results may be used where the steps are looked at. -/
theorem Spares.bind {w : Work α} {k : α → Work β} {Q : α → Prop} (h : Spares T w)
    (results : Within (fun _ => True) Q w) (rest : ∀ a, Q a → Spares T (k a)) :
    Spares T (w >>= k) := by
  have both : Within (Touches T) Q w := by
    refine Flow.Within.mono (Flow.Within.and h results) (fun _ h => h.1) ?_
    exact fun result h a ha => h.2 a ha
  exact both.bind rest

theorem Spares.then {w : Work α} {k : α → Work β} (h : Spares T w)
    (rest : ∀ a, Spares T (k a)) : Spares T (w >>= k) := Within.bind h fun a _ => rest a

theorem spares_pure (a : α) : Spares T (pure a : Work α) := within_pure trivial

theorem spares_throw (e : Error) : Spares T (throw e : Work α) := within_throw e

theorem spares_ofResult (result : Result α) : Spares T (ofResult result) :=
  within_ofResult fun _ _ => trivial

theorem spares_onAccounts (f : AccountTable → Result α × AccountTable) :
    Spares T (onAccounts f) :=
  within_onAccounts (touches_of_same fun _ => rfl) fun _ _ _ => trivial

theorem spares_seeAccounts (f : AccountTable → Result α) : Spares T (seeAccounts f) :=
  ⟨touches_of_same fun _ => rfl, fun _ _ _ => trivial⟩

theorem spares_draw : Spares T draw := ⟨touches_of_same fun _ => rfl, fun _ _ _ => trivial⟩

theorem spares_call (c : Web.Call α) : Spares T (call c) :=
  ⟨touches_of_same fun _ => rfl, fun _ _ _ => trivial⟩

theorem spares_onTextures {s : Scene} {access : Texture.Access} {kind : Kind}
    {f : Texture.Store → Result α × Texture.Store}
    (changes : ∀ t, (f t).2 = t ∨ ∃ change, T change ∧ (f t).2 = change.run t) :
    Spares T (onTextures s access kind f) := by
  refine ⟨fun r => ?_, fun _ _ _ => trivial⟩
  by_cases refused : s.refuses access kind = true
  · exact .inl (by simp only [refused, if_true])
  · simpa only [refused, if_false, Bool.false_eq_true] using changes r.textures

/-- What is done alone changes the textures in ways of its own only. -/
theorem Spares.relates {w : Work α} (h : Spares T w) {R : Texture.Store → Texture.Store → Prop}
    (refl : ∀ t, R t t) (trans : ∀ t u v, R t u → R u v → R t v)
    (changes : ∀ change, T change → ∀ t, R t (change.run t)) (r : Registry) :
    R r.textures (perform w r).2.textures := by
  refine (Flow.Within.run h (R := fun r r' => R r.textures r'.textures) (fun r => refl r.textures)
    (fun _ _ _ => trans _ _ _) ?_ r).2
  intro update touches r
  rcases touches r with same | ⟨change, ht, changed⟩
  · rw [same]
    exact refl _
  · rw [changed]
    exact changes change ht _

/-- Work that makes no change to textures leaves them as they are. -/
theorem Spares.same {w : Work α} (h : Spares (fun _ => False) w) (r : Registry) :
    (perform w r).2.textures = r.textures :=
  (h.relates (R := fun t t' => t' = t) (fun _ => rfl) (fun _ _ _ h h' => h'.trans h)
    (fun _ h => h.elim) r)

end

end Work

namespace Scene

open Work

variable {T : Texture.Change → Prop}

theorem spares_newPassword (s : Scene) (password : String) : Spares T (s.newPassword password) :=
  spares_draw.then fun _ => spares_ofResult _

theorem spares_newSession (s : Scene) : Spares T s.newSession :=
  spares_draw.then fun _ => spares_pure _

theorem spares_newUuid (s : Scene) : Spares T s.newUuid := spares_draw.then fun _ => spares_pure _

theorem spares_createAccount (s : Scene) (username password uuid : String) :
    Spares T (s.createAccount username password uuid) :=
  (spares_newPassword s password).then fun _ => (spares_newSession s).then fun _ =>
    (spares_onAccounts _).then fun _ => spares_pure _

theorem spares_require (holds : Bool) (e : Error) : Spares T (require holds e) :=
  within_require.done

theorem spares_verifySkin (s : Scene) (m : Migration) (username id : String) :
    Spares T (s.verifySkin m username id) := by
  refine (spares_call _).then fun url => ?_
  cases url with
  | none => exact spares_throw _
  | some url => exact (spares_call _).then fun _ => spares_require _ _

theorem spares_migratedUuid (s : Scene) (username : String) :
    Spares T (s.migratedUuid username) := by
  rw [migratedUuid]
  cases s.service.policy.migration with
  | none => exact spares_throw _
  | some m =>
    refine (spares_call _).then fun found => ?_
    cases found with
    | none => exact spares_throw _
    | some profile =>
      have verified := spares_verifySkin (T := T) s m username profile.id
      dsimp only
      cases Uuid.parse? profile.id with
      | none =>
        split
        · exact verified.then fun _ => spares_throw _
        · exact spares_throw _
      | some u =>
        split
        · exact verified.then fun _ => spares_pure _
        · exact spares_pure _

theorem spares_uuidFor (s : Scene) (q : RegisterRequest) : Spares T (s.uuidFor q) := by
  rw [uuidFor]
  split
  · exact spares_migratedUuid s q.username
  · refine (spares_ofResult _).then fun _ => ?_
    cases q.chosenUuid with
    | none => exact spares_newUuid s
    | some text => exact spares_ofResult _

theorem spares_register (s : Scene) (q : RegisterRequest) : Spares T (s.register q) := by
  rw [register_eq]
  refine (spares_ofResult _).then fun _ => (spares_uuidFor s q).then fun uuid => ?_
  exact (spares_createAccount s q.username q.password uuid).conflictAs _

theorem spares_beginSession (s : Scene) (a : Account) : Spares T (s.beginSession a) :=
  (spares_newSession s).then fun _ => (spares_onAccounts _).then fun _ => spares_pure _

theorem spares_loginTo (s : Scene) (a : Account) (password : String) :
    Spares T (s.loginTo a password) :=
  (spares_ofResult _).then fun _ => (spares_require _ _).then fun _ => spares_beginSession s a

theorem spares_loginAnonymously (s : Scene) (q : LoginRequest) :
    Spares T (s.loginAnonymously q) := by
  refine (spares_newUuid s).then fun uuid => ?_
  apply Within.tryCatch (spares_createAccount s q.username q.password uuid)
  intro e
  cases e with
  | conflict text =>
    refine (spares_seeAccounts _).then fun found => ?_
    cases found with
    | none => exact spares_throw _
    | some a => exact spares_loginTo s a q.password
  | _ => exact spares_throw _

theorem spares_login (s : Scene) (q : LoginRequest) : Spares T (s.login q) := by
  rw [login]
  dsimp only
  split
  · exact spares_throw _
  · refine (spares_seeAccounts _).then fun found => ?_
    cases found with
    | some a => exact spares_loginTo s a q.password
    | none =>
      dsimp only
      split
      · exact spares_loginAnonymously s q
      · exact spares_throw _

theorem spares_logout (a : Account) : Spares T (logout a) := spares_onAccounts _

theorem spares_ingestIf (s : Scene) (kind : Kind) (source : Option Texture.Source) :
    Spares T (s.ingestIf kind source) := by
  cases source with
  | none => exact spares_pure _
  | some source =>
    refine Spares.then (w := Texture.ingest s kind source) ?_ fun _ => spares_pure _
    cases source with
    | upload file => exact spares_ofResult _
    | url text => exact (spares_call _).then fun _ => spares_ofResult _

theorem spares_passwordIf (s : Scene) (password : Option String) (p : ProfileColumns) :
    Spares T (s.passwordIf password p) := by
  cases password with
  | none => exact spares_pure _
  | some password => exact (spares_newPassword s password).then fun _ => spares_pure _

theorem spares_keepIf (s : Scene) (image : Option Image) (p : ProfileColumns)
    (put : ∀ i ∈ image, T (.put i)) : Spares T (s.keepIf image p) := by
  cases image with
  | none => exact spares_pure _
  | some image =>
    refine Spares.then (w := Texture.keep s image) ?_ fun _ => spares_pure _
    refine (spares_onTextures fun _ => .inl rfl).then fun present => ?_
    have stored : Spares T (Work.onTextures s .put image.kind fun t =>
        t.put image.kind image.contentHash image.bytes) :=
      spares_onTextures fun t => .inr ⟨.put image, put image rfl, rfl⟩
    cases present with
    | true => exact spares_pure _
    | false => exact stored.then fun _ => spares_pure _

theorem spares_discardIf (s : Scene) (kind : Kind) (hash : Option String)
    (delete : ∀ h ∈ hash, T (.delete kind h)) : Spares T (s.discardIf kind hash) := by
  cases hash with
  | none => exact spares_pure _
  | some hash => exact spares_onTextures fun t => .inr ⟨.delete kind hash, delete hash rfl, rfl⟩

/-- An update puts nothing but the images that its sources give. -/
theorem spares_updateProfile (s : Scene) (a : Account) (q : UpdateRequest)
    (put : ∀ kind source image, q.source kind = some source → source.image s kind = .ok image →
      T (.put image)) : Spares T (s.updateProfile a q) := by
  have took : ∀ kind {image}, s.Took kind (q.source kind) image → ∀ i ∈ image, T (.put i) := by
    intro kind image took i hi
    generalize given : q.source kind = source at took
    cases took with
    | none => cases hi
    | @some source i' taken =>
      cases hi
      exact put kind source i given taken
  have anyStep : ∀ u : Registry → Registry, Work.Quiet u → True := fun _ _ => trivial
  refine (spares_ofResult _).then fun text => ?_
  refine (spares_ingestIf s .skin q.skin).bind (within_ingestIf anyStep s .skin q.skin) ?_
  intro skin tookSkin
  refine (spares_ingestIf s .cape q.cape).bind (within_ingestIf anyStep s .cape q.cape) ?_
  intro cape tookCape
  refine (spares_passwordIf s q.newPassword text).then fun p => ?_
  refine (spares_keepIf s skin p (took .skin tookSkin)).then fun p => ?_
  refine (spares_keepIf s cape p (took .cape tookCape)).then fun p => ?_
  refine Spares.then ?_ fun _ => spares_pure _
  exact (spares_onAccounts (·.save { a with profile := p })).conflictAs _

/-- A deletion removes nothing but the recorded textures of its account. -/
theorem spares_deleteAccount (s : Scene) (a : Account)
    (delete : ∀ kind hash, a.profile.textureHash kind = some hash → T (.delete kind hash)) :
    Spares T (s.deleteAccount a) := by
  refine (spares_logout a).then fun _ => (spares_onAccounts _).then fun _ => ?_
  apply Flow.Within.bind (spares_discardIf s .skin a.profile.skinHash (delete .skin))
  intro _ _
  apply Flow.Within.bind (spares_discardIf s .cape a.profile.capeHash (delete .cape))
  intro _ _ _ _
  trivial

end Scene

/-- The changes that an operation may make to textures. -/
def Operation.Changes (s : Scene) : Operation → Texture.Change → Prop
  | update _ q, .put image =>
    ∃ kind source, q.source kind = some source ∧ source.image s kind = .ok image
  | delete a, .delete kind hash => a.profile.textureHash kind = some hash
  | _, _ => False

/-- Each step of an operation leaves the textures alone or makes one of its changes. -/
theorem Operation.spares_work (s : Scene) (op : Operation) :
    Work.Spares (op.Changes s) (op.work s) := by
  have ended : ∀ {α : Type} {w : Work α} {T : Texture.Change → Prop}, Work.Spares T w →
      Work.Spares T (do let _ ← w) := fun h => h.then fun _ => Work.spares_pure _
  cases op with
  | register q => exact ended (Scene.spares_register s q)
  | login q => exact ended (Scene.spares_login s q)
  | issue a => exact ended (Scene.spares_beginSession s a)
  | logout a => exact ended (Scene.spares_logout a)
  | update a q =>
    refine ended (Scene.spares_updateProfile s a q ?_)
    exact fun kind source image given taken => ⟨kind, source, given, taken⟩
  | delete a => exact Scene.spares_deleteAccount s a fun _ _ recorded => recorded
  | setSession id token expiresAt => exact Work.spares_onAccounts (·.setSession id token expiresAt)
  | clearSession id => exact Work.spares_onAccounts fun t => (.ok (), t.clearSession id)

end PlayerRegistry
