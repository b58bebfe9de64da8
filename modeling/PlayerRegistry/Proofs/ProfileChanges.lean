import PlayerRegistry.Proofs.PasswordHashes
import PlayerRegistry.Proofs.UpdateChecks

/-!
# The changes of an update

An update takes quiet steps, which leave the account table alone, and then one that saves. What it
saves has the requested value in every field that the request sets, and in every other field the
value that the update saw when it began, which need no longer be the stored one.
-/

namespace PlayerRegistry

open Texture (Kind Image)

/-- What an update may change. -/
inductive ProfileField where
  | playerName
  | language
  | password
  | skinModel
  | skin
  | cape
  deriving DecidableEq

def UpdateRequest.Sets (q : UpdateRequest) : ProfileField → Prop
  | .playerName => q.playerName.isSome
  | .language => q.preferredLanguage.isSome
  | .password => q.newPassword.isSome
  | .skinModel => q.skinModel.isSome
  | .skin => q.skin.isSome
  | .cape => q.cape.isSome

instance (q : UpdateRequest) (f : ProfileField) : Decidable (q.Sets f) := by
  cases f <;> exact inferInstanceAs (Decidable (_ = true))

/-- Two profiles have the same value in a field. -/
def ProfileColumns.Agree (p p' : ProfileColumns) : ProfileField → Prop
  | .playerName => p.playerName = p'.playerName
  | .language => p.language = p'.language
  | .password => p.password = p'.password
  | .skinModel => p.skinModel = p'.skinModel
  | .skin => p.skinHash = p'.skinHash
  | .cape => p.capeHash = p'.capeHash

/-- The file that a source gives, if it gives one. -/
def Texture.Source.given (s : Scene) (kind : Kind) : Texture.Source → Result ByteArray
  | .upload file => .ok file
  | .url text => (s.service.fetcher.fetch s.web kind.name text).result

/-- The image that a source gives, if it gives one that is accepted. -/
def Texture.Source.image (s : Scene) (kind : Kind) (source : Texture.Source) : Result Image := do
  Texture.validate kind s.service.rules (← source.given s kind)

theorem Texture.Source.image_upload (s : Scene) (kind : Kind) (file : ByteArray) :
    (upload file).image s kind = Texture.validate kind s.service.rules file := rfl

/-- The profile with an image, if there is one, as its texture. -/
def ProfileColumns.withTexture (p : ProfileColumns) (image : Option Image) : ProfileColumns :=
  image.elim p fun i => p.setTexture i.kind i.contentHash

/-- A field of the profile has the value that a request sets. -/
def Scene.Grants (s : Scene) (q : UpdateRequest) (p : ProfileColumns) : ProfileField → Prop
  | .playerName => q.playerName = some p.playerName
  | .language => q.preferredLanguage = some p.language
  | .password => ∃ password, q.newPassword = some password ∧
      s.service.credentials.verify password p.password = .ok true
  | .skinModel => q.skinModel = some p.skinModel.name
  | .skin => ∃ source image, q.skin = some source ∧ source.image s .skin = .ok image ∧
      p.skinHash = some image.contentHash
  | .cape => ∃ source image, q.cape = some source ∧ source.image s .cape = .ok image ∧
      p.capeHash = some image.contentHash

/-- What an update saves over `a`, the account as the update saw it. -/
structure Scene.Updates (s : Scene) (a : Account) (q : UpdateRequest) (b : Account) : Prop where
  /-- Only the profile is another. -/
  rest : b = { a with profile := b.profile }
  granted : ∀ f, q.Sets f → s.Grants q b.profile f
  kept : ∀ f, ¬q.Sets f → b.profile.Agree a.profile f
  faultless : q.nameFault = none ∧ s.renameFault a q = none ∧ q.languageFault = none ∧
    q.skinModelFault = none ∧ s.passwordFault q = none

namespace ProfileColumns

theorem Agree.symm {p p' : ProfileColumns} {f : ProfileField} (h : p.Agree p' f) :
    p'.Agree p f := by
  cases f <;> exact Eq.symm h

/-- Whether a field has the requested value is seen from the field alone. -/
theorem Agree.grants_iff {p p' : ProfileColumns} {f : ProfileField} (h : p.Agree p' f)
    (s : Scene) (q : UpdateRequest) : s.Grants q p f ↔ s.Grants q p' f := by
  cases f <;> simp only [Agree] at h <;> simp only [Scene.Grants, h]

@[simp]
theorem withTexture_password (p : ProfileColumns) (image : Option Image) :
    (p.withTexture image).password = p.password := by
  cases image with
  | none => rfl
  | some i =>
    change (p.setTexture i.kind i.contentHash).password = p.password
    cases i.kind <;> rfl

theorem withTexture_skin (p : ProfileColumns) {image : Option Image}
    (h : ∀ i ∈ image, i.kind = .skin) :
    p.withTexture image =
      { p with skinHash := image.elim p.skinHash fun i => some i.contentHash } := by
  cases image with
  | none => rfl
  | some i => simp [withTexture, setTexture, h i rfl]

theorem withTexture_cape (p : ProfileColumns) {image : Option Image}
    (h : ∀ i ∈ image, i.kind = .cape) :
    p.withTexture image =
      { p with capeHash := image.elim p.capeHash fun i => some i.contentHash } := by
  cases image with
  | none => rfl
  | some i => simp [withTexture, setTexture, h i rfl]

end ProfileColumns

/-- An image that is accepted is the canonical form of what was decoded, in a shape that was
checked. -/
theorem Texture.examine_ok {kind : Kind} {rules : Rules} {file : ByteArray} {image : Image}
    (h : examine kind rules file = .ok image) :
    ∃ width height picture, Png.dimensions? file.data.toList = some (width, height) ∧
      checkShape kind rules.sizeLimit width height = .ok () ∧
      Png.decode? file.data.toList = some picture ∧
      image = ⟨kind, width, height, toByteArray (Png.encode picture)⟩ := by
  rw [examine] at h
  obtain ⟨_, h⟩ := ok_of_guard h
  obtain ⟨_, h⟩ := ok_of_guard h
  obtain ⟨_, h⟩ := ok_of_guard h
  cases dimensions : Png.dimensions? file.data.toList with
  | none => simp [dimensions] at h
  | some size =>
    simp only [dimensions] at h
    obtain ⟨_, checked, h⟩ := ok_of_bind h
    cases decoded : Png.decode? file.data.toList with
    | none => simp [decoded] at h
    | some picture =>
      simp only [decoded] at h
      exact ⟨_, _, picture, rfl, checked, rfl, (Except.ok.inj h).symm⟩

theorem Texture.validate_eq_ok_iff {kind : Kind} {rules : Rules} {file : ByteArray}
    {image : Image} :
    validate kind rules file = .ok image ↔ examine kind rules file = .ok image := by
  rw [validate]
  cases examine kind rules file with
  | error fault => exact iff_of_false nofun nofun
  | ok found => simp [Except.mapError]

/-- The image of a source is that of a file that has been accepted. -/
theorem Texture.Source.image_ok {s : Scene} {kind : Kind} {source : Source} {image : Image}
    (h : source.image s kind = .ok image) :
    ∃ file, examine kind s.service.rules file = .ok image := by
  obtain ⟨file, _, validated⟩ := ok_of_bind h
  exact ⟨file, validate_eq_ok_iff.mp validated⟩

theorem Texture.Source.image_kind {s : Scene} {kind : Kind} {source : Source} {image : Image}
    (h : source.image s kind = .ok image) : image.kind = kind := by
  obtain ⟨file, examined⟩ := image_ok h
  obtain ⟨_, _, _, -, -, -, rfl⟩ := examine_ok examined
  rfl

namespace Scene

variable {s : Scene} {a : Account} {q : UpdateRequest}

/-- Each source that is given has given its image. -/
def Took (s : Scene) (kind : Kind) : Option Texture.Source → Option Image → Prop :=
  Option.Rel fun source image => source.image s kind = .ok image

theorem Took.kind {kind : Kind} {source : Option Texture.Source} {image : Option Image}
    (h : s.Took kind source image) : ∀ i ∈ image, i.kind = kind := by
  cases h with
  | none => simp
  | some taken =>
    intro i hi
    cases hi
    exact Texture.Source.image_kind taken

section
variable {P : (Registry → Registry) → Prop}

theorem within_ingest (quiet : ∀ u, Work.Quiet u → P u) (s : Scene) (kind : Kind)
    (source : Texture.Source) :
    Work.Within P (fun image => source.image s kind = .ok image)
      (Texture.ingest s kind source) := by
  have file : Work.Within P (fun file => source.given s kind = .ok file)
      (source.file s kind) := by
    cases source with
    | upload file => exact Work.within_pure rfl
    | url text => exact Work.within_call quiet _
  apply file.bind
  intro file given
  apply Work.within_ofResult
  intro image h
  rw [Texture.Source.image]
  rw [given]
  exact h

theorem within_ingestIf (quiet : ∀ u, Work.Quiet u → P u) (s : Scene) (kind : Kind)
    (source : Option Texture.Source) :
    Work.Within P (s.Took kind source) (s.ingestIf kind source) := by
  cases source with
  | none => exact Work.within_pure .none
  | some source =>
    refine (within_ingest quiet s kind source).bind ?_
    intro image h
    exact Work.within_pure (.some h)

/-- A password that was just made is the one that is asked for. -/
theorem within_passwordIf (quiet : ∀ u, Work.Quiet u → P u) (s : Scene)
    (password : Option String) (p : ProfileColumns) :
    Work.Within P (fun p' => p' = { p with password := p'.password } ∧
      (password = none → p'.password = p.password) ∧
      ∀ given, password = some given →
        s.service.credentials.verify given p'.password = .ok true) (s.passwordIf password p) := by
  cases password with
  | none => exact Work.within_pure ⟨rfl, fun _ => rfl, by simp⟩
  | some given =>
    have hashed : Work.Within P
        (fun kept => s.service.credentials.verify given kept = .ok true) (s.newPassword given) :=
      (Work.within_draw quiet).bind fun k _ =>
        Work.within_ofResult fun kept h => Credentials.newPassword_verify h
    apply hashed.bind
    intro kept h
    refine Work.within_pure ⟨rfl, by simp, ?_⟩
    intro given' same
    cases same
    exact h

theorem within_keepIf (quiet : ∀ u, Work.Quiet u → P u) (s : Scene) (image : Option Image)
    (p : ProfileColumns) :
    Work.Within P (fun p' => p' = p.withTexture image) (s.keepIf image p) := by
  cases image with
  | none => exact Work.within_pure rfl
  | some image =>
    have kept : Work.Within P (fun hash => hash = image.contentHash) (Texture.keep s image) := by
      refine (Work.within_onTextures quiet s _ _).bind ?_
      intro present _
      cases present with
      | true => exact Work.within_pure rfl
      | false =>
        refine (Work.within_onTextures quiet s _ _).bind ?_
        intro _ _
        exact Work.within_pure rfl
    apply kept.bind
    rintro hash rfl
    exact Work.within_pure rfl

end

/-- What is left of an update once all of it but the save is done: nothing if it has failed. -/
inductive SaveEnd (s : Scene) (a : Account) (q : UpdateRequest) :
    Flow Registry (Result Account) → Prop where
  | failed (e : Error) : SaveEnd s a q (.done (.error e))
  | save {b : Account} : s.Updates a q b →
      SaveEnd s a q (ExceptT.run (do
        Work.conflictAs "That player name is taken." (Work.onAccounts (·.save b))
        return b))

/-- The save is the last step. -/
theorem run_save (b : Account) :
    ExceptT.run (do
        Work.conflictAs "That player name is taken." (Work.onAccounts (·.save b))
        return b) =
      .step (fun r => { r with accounts := (r.accounts.save b).2 }) fun r =>
        .done (((r.accounts.save b).1.mapError
          (Work.reworded "That player name is taken.")).map fun _ => b) := by
  rw [ExceptT.run_bind, Work.run_conflictAs]
  refine congrArg (Flow.step _) (funext fun r => ?_)
  change (Flow.bind (Flow.bind (.done (r.accounts.save b).1) _) _) = _
  cases (r.accounts.save b).1 with
  | ok => rfl
  | error e => rfl

theorem updates_of_stages {p : ProfileColumns} {skin cape : Option Image}
    (text : p = { withText a q with password := p.password })
    (faultless : q.nameFault = none ∧ s.renameFault a q = none ∧ q.languageFault = none ∧
      q.skinModelFault = none ∧ s.passwordFault q = none)
    (kept : q.newPassword = none → p.password = a.profile.password)
    (changed : ∀ given, q.newPassword = some given →
      s.service.credentials.verify given p.password = .ok true)
    (tookSkin : s.Took .skin q.skin skin) (tookCape : s.Took .cape q.cape cape) :
    s.Updates a q { a with profile := (p.withTexture skin).withTexture cape } := by
  have shape : (p.withTexture skin).withTexture cape =
      { withText a q with
        password := p.password
        skinHash := skin.elim a.profile.skinHash fun i => some i.contentHash
        capeHash := cape.elim a.profile.capeHash fun i => some i.contentHash } := by
    rw [ProfileColumns.withTexture_skin p tookSkin.kind,
      ProfileColumns.withTexture_cape _ tookCape.kind]
    cases p
    simp only [withText, ProfileColumns.mk.injEq] at text
    obtain ⟨rfl, -, rfl, rfl, rfl, rfl⟩ := text
    rfl
  exact {
    rest := rfl
    granted := by
      intro f sets
      rw [shape]
      cases f with
      | playerName =>
        obtain ⟨name, h⟩ := Option.isSome_iff_exists.mp sets
        simp [Grants, withText, h]
      | language =>
        obtain ⟨language, h⟩ := Option.isSome_iff_exists.mp sets
        simp [Grants, withText, h]
      | password =>
        obtain ⟨given, h⟩ := Option.isSome_iff_exists.mp sets
        exact ⟨given, h, changed given h⟩
      | skinModel =>
        obtain ⟨model, h⟩ := Option.isSome_iff_exists.mp sets
        have known : model = "classic" ∨ model = "slim" := or_iff_not_imp_left.mpr (by
          simpa [UpdateRequest.skinModelFault, h] using faultless.2.2.2.1)
        rcases known with rfl | rfl
        · simp [Grants, withText, h, SkinModel.ofName?, SkinModel.name]
        · simp [Grants, withText, h, SkinModel.ofName?, SkinModel.name]
      | skin =>
        obtain ⟨source, h⟩ := Option.isSome_iff_exists.mp sets
        rw [h] at tookSkin
        cases tookSkin with
        | some taken => exact ⟨source, _, h, taken, rfl⟩
      | cape =>
        obtain ⟨source, h⟩ := Option.isSome_iff_exists.mp sets
        rw [h] at tookCape
        cases tookCape with
        | some taken => exact ⟨source, _, h, taken, rfl⟩
    kept := by
      intro f leaves
      rw [shape]
      cases f with
      | playerName =>
        have h : q.playerName = none := by simpa [UpdateRequest.Sets] using leaves
        simp [ProfileColumns.Agree, withText, h]
      | language =>
        have h : q.preferredLanguage = none := by simpa [UpdateRequest.Sets] using leaves
        simp [ProfileColumns.Agree, withText, h]
      | password =>
        have h : q.newPassword = none := by simpa [UpdateRequest.Sets] using leaves
        exact kept h
      | skinModel =>
        have h : q.skinModel = none := by simpa [UpdateRequest.Sets] using leaves
        simp [ProfileColumns.Agree, withText, h]
      | skin =>
        have h : q.skin = none := by simpa [UpdateRequest.Sets] using leaves
        rw [h] at tookSkin
        cases tookSkin
        rfl
      | cape =>
        have h : q.cape = none := by simpa [UpdateRequest.Sets] using leaves
        rw [h] at tookCape
        cases tookCape
        rfl
    faultless := faultless }

/-- An update is quiet until its save, and what it saves has the requested values. -/
theorem until_updateProfile (s : Scene) (a : Account) (q : UpdateRequest) :
    Flow.Until Work.Quiet (s.SaveEnd a q) (ExceptT.run (s.updateProfile a q)) := by
  have quiet : ∀ u, Work.Quiet u → Work.Quiet u := fun _ h => h
  have failed : ∀ e, s.SaveEnd a q (.done (.error e)) := .failed
  have text := Work.within_ofResult (P := Work.Quiet) fun p (h : s.textChanges a q = .ok p) =>
    textChanges_ok h
  apply text.until_bind failed
  rintro _ ⟨rfl, faultless⟩
  apply (within_ingestIf quiet s .skin q.skin).until_bind failed
  intro skin tookSkin
  apply (within_ingestIf quiet s .cape q.cape).until_bind failed
  intro cape tookCape
  apply (within_passwordIf quiet s q.newPassword _).until_bind failed
  rintro p ⟨only, kept, changed⟩
  apply (within_keepIf quiet s skin p).until_bind failed
  rintro _ rfl
  apply (within_keepIf quiet s cape _).until_bind failed
  rintro _ rfl
  exact .now (.save (updates_of_stages only faultless kept changed tookSkin tookCape))

end Scene

end PlayerRegistry
