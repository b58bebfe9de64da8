import PlayerRegistry.Proofs.CanonicalForms
import PlayerRegistry.Proofs.OperationOutcomes
import PlayerRegistry.Proofs.TextureStores

/-!
# The history of textures

Textures are shared by all accounts that record them and are not counted. What has been done to the
texture of a hash is a history of events: an image was stored, or an account that recorded it was
deleted. The last of them decides whether the texture is there.
-/

namespace PlayerRegistry

open Texture (Kind Image)

/-- A texture stays there unless it is deleted itself. -/
theorem Texture.Change.keeps {kind : Kind} {hash : String} (change : Change)
    (other : change ≠ .delete kind hash) {t : Store} (there : t.contains kind hash = true) :
    (change.run t).contains kind hash = true := by
  cases change with
  | put image =>
    exact (Store.contains_put (isContentHash_contentHash image) image.bytes).mpr (.inr there)
  | delete kind' hash' =>
    rw [run]
    by_cases valid : isContentHash hash' = true
    · refine (Store.contains_delete valid).mpr ⟨?_, there⟩
      rintro ⟨⟩
      exact other rfl
    · simpa [Store.delete, valid] using there

inductive TextureEvent where
  | stored (kind : Kind) (hash : String)
  /-- The account of an id was deleted while it recorded the texture. -/
  | deleted (id : Int) (kind : Kind) (hash : String)

namespace TextureEvent

/-- The texture was stored, and no account that recorded it has been deleted since. The last event
comes first. -/
def LastStored (events : List TextureEvent) (kind : Kind) (hash : String) : Prop :=
  ∃ after before, events = after ++ stored kind hash :: before ∧
    ∀ id, deleted id kind hash ∉ after

variable {events : List TextureEvent} {kind kind' : Kind} {hash hash' : String}

theorem lastStored_stored : LastStored (stored kind hash :: events) kind' hash' ↔
    (kind', hash') = (kind, hash) ∨ LastStored events kind' hash' := by
  constructor
  · rintro ⟨after, before, split, undeleted⟩
    cases after with
    | nil =>
      obtain ⟨⟨⟩, -⟩ := List.cons.inj split
      exact .inl rfl
    | cons e after =>
      obtain ⟨rfl, rest⟩ := List.cons.inj split
      exact .inr ⟨after, before, rest, fun id h => undeleted id (List.mem_cons_of_mem _ h)⟩
  · rintro (⟨⟨⟩⟩ | ⟨after, before, rfl, undeleted⟩)
    · exact ⟨[], events, rfl, by simp⟩
    · exact ⟨stored kind hash :: after, before, rfl, by simpa using undeleted⟩

theorem lastStored_deleted {id : Int} : LastStored (deleted id kind hash :: events) kind' hash' ↔
    (kind', hash') ≠ (kind, hash) ∧ LastStored events kind' hash' := by
  constructor
  · rintro ⟨after, before, split, undeleted⟩
    cases after with
    | nil => cases split
    | cons e after =>
      obtain ⟨rfl, rest⟩ := List.cons.inj split
      refine ⟨?_, after, before, rest, fun id h => undeleted id (List.mem_cons_of_mem _ h)⟩
      rintro ⟨⟩
      exact undeleted id List.mem_cons_self
  · rintro ⟨other, after, before, rfl, undeleted⟩
    refine ⟨deleted id kind hash :: after, before, rfl, fun id' h => ?_⟩
    rcases List.mem_cons.mp h with same | h
    · cases same
      exact other rfl
    · exact undeleted id' h

/-- What is there, and what has been stored last, are the same. -/
def Decides (events : List TextureEvent) (t : Texture.Store) : Prop :=
  ∀ kind hash, t.contains kind hash = true ↔ LastStored events kind hash

theorem decides_empty : Decides [] .empty := by
  intro kind hash
  refine iff_of_false ?_ ?_
  · simp [Texture.Store.contains, Texture.Store.get, Texture.Store.empty]
  · rintro ⟨after, before, split, -⟩
    simp at split

theorem Decides.put {t : Texture.Store} (h : Decides events t) (image : Image) :
    Decides (stored image.kind image.contentHash :: events)
      ((Texture.Change.put image).run t) := by
  intro kind hash
  rw [lastStored_stored, ← h kind hash]
  exact Texture.Store.contains_put (Texture.isContentHash_contentHash image) image.bytes

theorem Decides.delete {t : Texture.Store} (h : Decides events t)
    (valid : Texture.isContentHash hash = true) (id : Int) :
    Decides (deleted id kind hash :: events) (t.delete kind hash).2 := by
  intro kind' hash'
  rw [lastStored_deleted, ← h kind' hash']
  exact Texture.Store.contains_delete valid

theorem Decides.withoutIf {t : Texture.Store} (h : Decides events t) {hash : Option String}
    (valid : ∀ text, hash = some text → Texture.isContentHash text = true) (id : Int) :
    Decides (hash.toList.map (deleted id kind) ++ events) (t.withoutIf kind hash) := by
  cases hash with
  | none => exact h
  | some text => exact h.delete (valid text rfl) id

end TextureEvent

namespace Scene

open Work

variable {s : Scene} {a : Account} {q : UpdateRequest} {r : Registry}

/-- The image that a request gives for a texture, if it gives one that is accepted. -/
def imageOf (s : Scene) (q : UpdateRequest) (kind : Kind) : Option Image :=
  (s.imageIf kind (q.source kind)).toOption.join

/-- The images that an update stores, one after another: those that are given, once everything has
been checked and the password, if there is a new one, has been hashed. -/
def storedBy (s : Scene) (a : Account) (q : UpdateRequest) (r : Registry) : List Image :=
  if (firstFault (s.checkFaults a q)).isSome ∨
      (q.newPassword.isSome ∧ (s.random.salt r.draws).size < 8) then []
  else (s.imageOf q .skin).toList ++ (s.imageOf q .cape).toList

/-- The store after images have been stored one after another. -/
def storing (t : Texture.Store) (images : List Image) : Texture.Store :=
  images.foldl (fun t i => (Texture.Change.put i).run t) t

/-- An image that is stored first is found under its own kind and hash. -/
theorem get_storing_empty (image : Image) (kind : Kind) :
    (storing .empty [image]).get kind image.contentHash =
      if kind = image.kind then some image.bytes else none := by
  have valid := Texture.isContentHash_contentHash image
  have missing : Texture.Store.empty.map (image.kind, image.contentHash) = none :=
    congrFun Texture.Store.map_empty _
  have stored := (Texture.Store.map_put valid missing image.bytes).2
  have found := congrFun stored (kind, image.contentHash)
  simp only [Texture.Store.map_empty, Function.update_apply, Prod.mk.injEq, and_true] at found
  exact found

theorem decides_storing {events : List TextureEvent} {t : Texture.Store}
    (h : TextureEvent.Decides events t) (images : List Image) :
    TextureEvent.Decides
      ((images.map fun i => .stored i.kind i.contentHash).reverse ++ events)
      (storing t images) := by
  induction images generalizing t events with
  | nil => exact h
  | cons image images ih =>
    rw [List.map_cons, List.reverse_cons, List.append_assoc]
    exact ih (h.put image)

theorem perform_keep_accepted (accepts : ∀ access kind, s.refuses access kind = false)
    (image : Image) (r : Registry) : (Texture.keep s image).perform r =
      (.ok image.contentHash, { r with textures := storing r.textures [image] }) := by
  have valid := Texture.isContentHash_contentHash image
  have looked : (Work.onTextures s .contains image.kind fun t =>
      (.ok (t.contains image.kind image.contentHash), t)).perform r =
      (.ok (r.textures.contains image.kind image.contentHash), r) := by
    rw [perform_onTextures, accepts]
    rfl
  rw [Texture.keep, perform_bind_ok looked]
  cases there : r.textures.map (image.kind, image.contentHash) with
  | none =>
    have absent : r.textures.contains image.kind image.contentHash = false := by
      rw [← Bool.not_eq_true, Texture.Store.contains_iff, there]
      simp
    have stored : (Work.onTextures s .put image.kind fun t =>
        t.put image.kind image.contentHash image.bytes).perform r =
        (.ok (), { r with textures := storing r.textures [image] }) := by
      rw [perform_onTextures, accepts, (Texture.Store.map_put valid there image.bytes).1]
      rfl
    rw [absent]
    exact perform_bind_ok stored _
  | some bytes =>
    have present : r.textures.contains image.kind image.contentHash = true := by
      rw [Texture.Store.contains_iff, there]
      simp
    have same : storing r.textures [image] = r.textures := by
      rw [storing, List.foldl_cons, List.foldl_nil, Texture.Change.run,
        Texture.Store.put_of_present valid there]
    rw [present, same]
    rfl

theorem perform_keepIf_accepted (accepts : ∀ access kind, s.refuses access kind = false)
    (image : Option Image) (p : ProfileColumns) (r : Registry) :
    (s.keepIf image p).perform r =
      (.ok (p.withTexture image), { r with textures := storing r.textures image.toList }) := by
  cases image with
  | none => rfl
  | some image =>
    unfold keepIf
    dsimp only
    rw [perform_bind_ok (perform_keep_accepted accepts image r)]
    rfl

/-- Unless there is a password that cannot be hashed, both images are stored. -/
theorem textures_storeChanges (accepts : ∀ access kind, s.refuses access kind = false)
    (text : ProfileColumns) (skin cape : Option Image) (r : Registry) :
    ((s.storeChanges a q text skin cape).perform r).2.textures =
      if q.newPassword.isSome ∧ (s.random.salt r.draws).size < 8 then r.textures
      else storing r.textures (skin.toList ++ cape.toList) := by
  rw [storeChanges]
  rcases perform_passwordIf s q.newPassword text r with
    ⟨reason, short, failed⟩ | ⟨p, draws, done, -, -, hashed⟩
  · have given : q.newPassword.isSome := by
      cases given : q.newPassword with
      | none => simp [given, passwordIf] at failed
      | some password => rfl
    rw [perform_bind_error failed, if_pos ⟨given, short⟩]
  · have salted : ¬(q.newPassword.isSome ∧ (s.random.salt r.draws).size < 8) := by
      rintro ⟨given, short⟩
      obtain ⟨password, given⟩ := Option.isSome_iff_exists.mp given
      have long := (Credentials.newPassword_eq_ok (hashed password given)).1
      omega
    rw [perform_bind_ok done, perform_bind_ok (perform_keepIf_accepted accepts skin p _),
      perform_bind_ok (perform_keepIf_accepted accepts cape _ _), perform_save, if_neg salted,
      storing, storing, storing, List.foldl_append]

/-- Where the checks find no fault, it comes to storing what is given. -/
theorem perform_updateProfile_of_faultless
    (faultless : firstFault (s.checkFaults a q) = none) (r : Registry) :
    ∃ sent, (s.updateProfile a q).perform r =
      (s.storeChanges a q (withText a q) (s.imageOf q .skin) (s.imageOf q .cape)).perform
        { r with sent } := by
  rw [checkFaults, firstFault_append, Option.or_eq_none_iff] at faultless
  obtain ⟨textsPass, imagesPass⟩ := faultless
  have given : ∀ kind, s.textureFault kind (q.source kind) = none →
      s.imageIf kind (q.source kind) = .ok (s.imageOf q kind) := by
    intro kind none
    rw [textureFault_of_imageIf] at none
    rw [imageOf]
    cases read : s.imageIf kind (q.source kind) with
    | error e => simp [read] at none
    | ok image => rfl
  have each : s.textureFault .skin q.skin = none ∧ s.textureFault .cape q.cape = none := by
    simpa [firstFault] using imagesPass
  have textsDone : (Work.ofResult (s.textChanges a q)).perform r = (.ok (withText a q), r) := by
    rw [perform_ofResult, textChanges_firstFault, textsPass]
  have skinGiven : s.imageIf .skin q.skin = .ok (s.imageOf q .skin) := given .skin each.1
  have capeGiven : s.imageIf .cape q.cape = .ok (s.imageOf q .cape) := given .cape each.2
  obtain ⟨sent, skinDone⟩ := perform_ingestIf s .skin q.skin r
  obtain ⟨sent', capeDone⟩ := perform_ingestIf s .cape q.cape { r with sent }
  rw [skinGiven] at skinDone
  rw [capeGiven] at capeDone
  refine ⟨sent', ?_⟩
  rw [updateProfile_eq, perform_bind_ok textsDone, perform_bind_ok skinDone,
    perform_bind_ok capeDone]

/-- An update stores its images and does nothing else to textures, whether or not it succeeds. -/
theorem textures_updateProfile (accepts : ∀ access kind, s.refuses access kind = false)
    (a : Account) (q : UpdateRequest) (r : Registry) :
    ((s.updateProfile a q).perform r).2.textures = storing r.textures (s.storedBy a q r) := by
  cases found : firstFault (s.checkFaults a q) with
  | some e =>
    have outcome := s.outcome_updateProfile a q r
    rw [storedBy, if_pos (.inl (by simp [found]))]
    rcases done : (s.updateProfile a q).perform r with ⟨result, r'⟩
    rw [done] at outcome
    cases outcome with
    | fault _ _ textures => exact textures
    | unhashed passed => simp [found] at passed
    | refused passed => simp [found] at passed
    | save passed => simp [found] at passed
  | none =>
    obtain ⟨sent, stored⟩ := perform_updateProfile_of_faultless found r
    rw [stored, textures_storeChanges accepts, storedBy, found]
    by_cases short : q.newPassword.isSome ∧ (s.random.salt r.draws).size < 8
    · simp [short, storing]
    · simp [short]

/-- An update that sends nothing but a skin, which is accepted, stores the skin and records it. -/
theorem perform_updateProfile_of_skin (accepts : ∀ access kind, s.refuses access kind = false)
    {file : ByteArray} {image : Image}
    (read : Texture.validate .skin s.service.rules file = .ok image) {t : AccountTable}
    (saved : r.accounts.save { a with profile := a.profile.withTexture image } = (.ok (), t)) :
    (s.updateProfile a ⟨none, none, none, none, some (.upload file), none⟩).perform r =
      (.ok { a with profile := a.profile.withTexture image },
        { r with accounts := t, textures := storing r.textures [image] }) := by
  have taken : (Texture.ingest s .skin (.upload file)).perform r = (.ok image, r) :=
    congrArg (·, r) read
  have skin : (s.ingestIf .skin (some (.upload file))).perform r = (.ok (some image), r) :=
    perform_bind_ok taken _
  have cape : (s.ingestIf .cape none).perform r = (.ok none, r) := rfl
  have password : (s.passwordIf none a.profile).perform r = (.ok a.profile, r) := rfl
  refine (perform_bind_ok skin _).trans ((perform_bind_ok cape _).trans ?_)
  have kept : (s.keepIf image a.profile).perform r =
      (.ok (a.profile.withTexture image), { r with textures := storing r.textures [image] }) :=
    perform_keepIf_accepted accepts image a.profile r
  refine (perform_bind_ok password _).trans ((perform_bind_ok kept _).trans ?_)
  refine (perform_save _ _).trans ?_
  dsimp only
  rw [saved]
  rfl

end Scene

namespace Alice

/-- The skin on which nothing is drawn, as it is stored. -/
def blankImage : Image := .ofPicture .skin Texture.blankSkin

/-- The wish for this skin, and nothing else. -/
def blankSkin : UpdateRequest :=
  ⟨none, none, none, none, some (.upload (Texture.canonical Texture.blankSkin)), none⟩

/-- An account that wears it. -/
def inBlankSkin (a : Account) : Account :=
  { a with profile := a.profile.withTexture blankImage }

theorem perform_blankSkin {a : Account} {r : Registry} {t : AccountTable}
    (saved : r.accounts.save (inBlankSkin a) = (.ok (), t)) :
    (Scene.plain.updateProfile a blankSkin).perform r =
      (.ok (inBlankSkin a),
        { r with accounts := t, textures := Scene.storing r.textures [blankImage] }) :=
  Scene.perform_updateProfile_of_skin (fun _ _ => rfl)
    (Texture.validate_blankSkin (by decide) (by decide)) saved

end Alice

end PlayerRegistry
