import PlayerRegistry.Proofs.HexText
import PlayerRegistry.Proofs.Runs
import PlayerRegistry.Proofs.TextureStores

/-!
# Updates as a whole

An update that is done alone either changes one row, in what it was asked to change, or leaves the
account table as it was. Its faults are looked for in a fixed order, and nothing is stored until
none is found.
-/

namespace PlayerRegistry

open Texture (Kind Image)

/-- The first fault there is. -/
def firstFault (faults : List (Option Error)) : Option Error := faults.findSome? id

@[simp]
theorem firstFault_nil : firstFault [] = none := rfl

theorem firstFault_cons (fault : Option Error) (faults : List (Option Error)) :
    firstFault (fault :: faults) = fault.or (firstFault faults) := by
  cases fault <;> rfl

theorem firstFault_eq_none_iff {faults : List (Option Error)} :
    firstFault faults = none ↔ ∀ fault ∈ faults, fault = none :=
  List.findSome?_eq_none_iff

theorem exists_of_firstFault_map {α : Type} {fault : α → Option Error} {xs : List α} {e : Error}
    (h : firstFault (xs.map fault) = some e) : ∃ x ∈ xs, fault x = some e := by
  obtain ⟨_, found, rfl⟩ := List.exists_of_findSome?_eq_some h
  exact List.mem_map.mp found

namespace Scene

/-- The image of a source, where there is a source. -/
def imageIf (s : Scene) (kind : Kind) : Option Texture.Source → Result (Option Image)
  | none => .ok none
  | some source => (source.image s kind).map some

/-- Why a source gives no image. -/
def textureFault (s : Scene) (kind : Kind) (source : Option Texture.Source) : Option Error :=
  source.bind fun source =>
    match source.image s kind with
    | .ok _ => none
    | .error e => some e

def textFaults (s : Scene) (a : Account) (q : UpdateRequest) : List (Option Error) :=
  [q.nameFault, s.renameFault a q, q.languageFault, q.skinModelFault, s.passwordFault q]

/-- What can be wrong with an update before anything is stored. -/
def checkFaults (s : Scene) (a : Account) (q : UpdateRequest) : List (Option Error) :=
  s.textFaults a q ++ [s.textureFault .skin q.skin, s.textureFault .cape q.cape]

theorem textureFault_of_imageIf {s : Scene} {kind : Kind} {source : Option Texture.Source} :
    s.textureFault kind source =
      match s.imageIf kind source with
      | .ok _ => none
      | .error e => some e := by
  cases source with
  | none => rfl
  | some source =>
    simp only [textureFault, imageIf, Option.bind_some]
    cases source.image s kind with
    | ok image => rfl
    | error e => rfl

theorem Took.of_imageIf {s : Scene} {kind : Kind} {source : Option Texture.Source}
    {image : Option Image} (h : s.imageIf kind source = .ok image) : s.Took kind source image := by
  cases source with
  | none =>
    cases h
    exact .none
  | some source =>
    rw [imageIf] at h
    cases given : source.image s kind with
    | error e => simp [given, Except.map] at h
    | ok found =>
      have : image = some found := by simpa [given, Except.map] using h.symm
      subst this
      exact .some given

theorem textChanges_firstFault (s : Scene) (a : Account) (q : UpdateRequest) :
    s.textChanges a q =
      match firstFault (s.textFaults a q) with
      | none => .ok (withText a q)
      | some e => .error e := by
  rw [textChanges_eq]
  simp only [firstFault, textFaults, List.findSome?_cons, List.findSome?_nil, id]
  cases q.nameFault <;> cases s.renameFault a q <;> cases q.languageFault <;>
    cases q.skinModelFault <;> cases s.passwordFault q <;> rfl

theorem perform_ingest (s : Scene) (kind : Kind) (source : Texture.Source) (r : Registry) :
    ∃ sent, (Texture.ingest s kind source).perform r =
      (source.image s kind, { r with sent }) := by
  cases source with
  | upload file => exact ⟨r.sent, rfl⟩
  | url text =>
    refine ⟨r.sent ++ (s.service.fetcher.fetch s.web kind.name text).sent, ?_⟩
    rw [Texture.ingest, Texture.Source.image]
    rw [Work.perform_bind]
    simp only [Texture.Source.file, Texture.Source.given, Work.perform_call]
    cases (s.service.fetcher.fetch s.web kind.name text).result with
    | ok file => rfl
    | error e => rfl

theorem perform_ingestIf (s : Scene) (kind : Kind) (source : Option Texture.Source)
    (r : Registry) :
    ∃ sent, (s.ingestIf kind source).perform r = (s.imageIf kind source, { r with sent }) := by
  cases source with
  | none => exact ⟨r.sent, rfl⟩
  | some source =>
    obtain ⟨sent, ingested⟩ := perform_ingest s kind source r
    refine ⟨sent, ?_⟩
    unfold ingestIf imageIf
    dsimp only
    rw [Work.perform_bind, ingested]
    cases source.image s kind with
    | ok image => rfl
    | error e => rfl

/-- A password is hashed with the next salt, unless that is too short. -/
theorem perform_passwordIf (s : Scene) (password : Option String) (p : ProfileColumns)
    (r : Registry) :
    (∃ text, (s.random.salt r.draws).size < 8 ∧ (s.passwordIf password p).perform r =
      (.error (.internal text), { r with draws := r.draws + 1 })) ∨
    ∃ p' draws, (s.passwordIf password p).perform r = (.ok p', { r with draws }) ∧
      p' = { p with password := p'.password } ∧ (password = none → p'.password = p.password) ∧
      ∀ given, password = some given →
        s.service.credentials.newPassword given (s.random.salt r.draws) = .ok p'.password := by
  cases password with
  | none => exact .inr ⟨p, r.draws, rfl, rfl, fun _ => rfl, by simp⟩
  | some given =>
    have drawn : (s.newPassword given).perform r =
        (s.service.credentials.newPassword given (s.random.salt r.draws),
          { r with draws := r.draws + 1 }) := rfl
    unfold passwordIf
    dsimp only
    rw [Work.perform_bind, drawn]
    cases made : s.service.credentials.newPassword given (s.random.salt r.draws) with
    | error e =>
      obtain ⟨short, text, rfl⟩ := Credentials.newPassword_eq_error made
      exact .inl ⟨text, short, rfl⟩
    | ok kept =>
      refine .inr ⟨{ p with password := kept }, r.draws + 1, rfl, rfl, by simp, ?_⟩
      intro given' same
      cases same
      exact made

theorem perform_keep (s : Scene) (image : Image) (r : Registry) :
    (∃ access kind, s.refuses access kind = true ∧
      (Texture.keep s image).perform r = (.error (Work.refused access kind), r)) ∨
    ∃ textures, (Texture.keep s image).perform r = (.ok image.contentHash, { r with textures }) ∧
      textures.contains image.kind image.contentHash = true ∧
      ∀ kind hash, r.textures.contains kind hash = true → textures.contains kind hash = true := by
  rw [Texture.keep]
  by_cases looked : s.refuses .contains image.kind = true
  · refine .inl ⟨.contains, image.kind, looked, ?_⟩
    rw [Work.perform_bind, Work.perform_onTextures, if_pos looked]
  · have present : (Work.onTextures s .contains image.kind fun t =>
        (.ok (t.contains image.kind image.contentHash), t)).perform r =
        (.ok (r.textures.contains image.kind image.contentHash), r) := by
      rw [Work.perform_onTextures, if_neg looked]
    rw [Work.perform_bind_ok present]
    cases there : r.textures.contains image.kind image.contentHash with
    | true => exact .inr ⟨r.textures, rfl, there, fun _ _ h => h⟩
    | false =>
      by_cases stored : s.refuses .put image.kind = true
      · refine .inl ⟨.put, image.kind, stored, ?_⟩
        simp only [Bool.not_false, if_true]
        rw [Work.perform_bind, Work.perform_onTextures, if_pos stored]
      · have valid := Texture.isContentHash_contentHash image
        have missing : r.textures.map (image.kind, image.contentHash) = none := by
          rwa [← Bool.not_eq_true, Texture.Store.contains_iff, not_not] at there
        have ok := (Texture.Store.map_put valid missing image.bytes).1
        refine .inr ⟨(r.textures.put image.kind image.contentHash image.bytes).2, ?_,
          (Texture.Store.contains_put valid image.bytes).mpr (.inl rfl), ?_⟩
        · simp only [Bool.not_false, if_true]
          rw [Work.perform_bind, Work.perform_onTextures, if_neg stored, ok]
          rfl
        · exact fun kind hash had => (Texture.Store.contains_put valid image.bytes).mpr (.inr had)

theorem perform_keepIf (s : Scene) (image : Option Image) (p : ProfileColumns) (r : Registry) :
    (∃ access kind, s.refuses access kind = true ∧
      (s.keepIf image p).perform r = (.error (Work.refused access kind), r)) ∨
    ∃ textures, (s.keepIf image p).perform r = (.ok (p.withTexture image), { r with textures }) ∧
      (∀ i ∈ image, textures.contains i.kind i.contentHash = true) ∧
      ∀ kind hash, r.textures.contains kind hash = true → textures.contains kind hash = true := by
  cases image with
  | none => exact .inr ⟨r.textures, rfl, by simp, fun _ _ h => h⟩
  | some image =>
    unfold keepIf
    rcases perform_keep s image r with ⟨access, kind, refuses, kept⟩ | ⟨textures, kept, has, more⟩
    · exact .inl ⟨access, kind, refuses, Work.perform_bind_error kept _⟩
    · refine .inr ⟨textures, ?_, by simpa using has, more⟩
      dsimp only
      rw [Work.perform_bind_ok kept]
      rfl

end Scene

/-- The texture that a request sets. -/
def UpdateRequest.source (q : UpdateRequest) : Kind → Option Texture.Source
  | .skin => q.skin
  | .cape => q.cape

/-- All is ready for `b` to be saved, and the account table is as it was. -/
structure Scene.Prepared (s : Scene) (a : Account) (q : UpdateRequest) (r : Registry)
    (b : Account) (r' : Registry) : Prop where
  updates : s.Updates a q b
  password : ∀ given, q.newPassword = some given →
    s.service.credentials.newPassword given (s.random.salt r.draws) = .ok b.profile.password
  textures : ∀ kind hash, (q.source kind).isSome → b.profile.textureHash kind = some hash →
    r'.textures.contains kind hash = true
  accounts : r'.accounts = r.accounts

inductive Scene.UpdateOutcome (s : Scene) (a : Account) (q : UpdateRequest) (r : Registry) :
    Result Account × Registry → Prop where
  | fault {e r'} : firstFault (s.checkFaults a q) = some e → r'.accounts = r.accounts →
      r'.textures = r.textures → UpdateOutcome s a q r (.error e, r')
  | unhashed {text r'} : firstFault (s.checkFaults a q) = none →
      (s.random.salt r.draws).size < 8 → r'.accounts = r.accounts →
      UpdateOutcome s a q r (.error (.internal text), r')
  | refused {access kind r'} : firstFault (s.checkFaults a q) = none →
      s.refuses access kind = true → r'.accounts = r.accounts →
      UpdateOutcome s a q r (.error (Work.refused access kind), r')
  | save {b r'} : firstFault (s.checkFaults a q) = none → s.Prepared a q r b r' →
      UpdateOutcome s a q r
        (((r.accounts.save b).1.mapError (Work.reworded "That player name is taken.")).map
          fun _ => b, { r' with accounts := (r.accounts.save b).2 })

namespace Scene

theorem firstFault_append (faults more : List (Option Error)) :
    firstFault (faults ++ more) = (firstFault faults).or (firstFault more) :=
  List.findSome?_append

theorem stopAt_firstFault_append (faults more : List (Option Error)) :
    stopAt (firstFault (faults ++ more)) = (do
      stopAt (firstFault faults)
      stopAt (firstFault more)) := by
  rw [firstFault_append]
  cases firstFault faults <;> rfl

/-- What an update does once its checks have passed. -/
def storeChanges (s : Scene) (a : Account) (q : UpdateRequest) (text : ProfileColumns)
    (skin cape : Option Image) : Work Account := do
  let profile ← s.passwordIf q.newPassword text
  let profile ← s.keepIf skin profile
  let profile ← s.keepIf cape profile
  let updated := { a with profile }
  Work.conflictAs "That player name is taken." (Work.onAccounts (·.save updated))
  return updated

theorem updateProfile_eq (s : Scene) (a : Account) (q : UpdateRequest) :
    s.updateProfile a q = (do
      let text ← Work.ofResult (s.textChanges a q)
      let skin ← s.ingestIf .skin q.skin
      let cape ← s.ingestIf .cape q.cape
      s.storeChanges a q text skin cape) := rfl

theorem perform_save (b : Account) (r : Registry) :
    (do
        Work.conflictAs "That player name is taken." (Work.onAccounts (·.save b))
        return b : Work Account).perform r =
      (((r.accounts.save b).1.mapError (Work.reworded "That player name is taken.")).map
        fun _ => b, { r with accounts := (r.accounts.save b).2 }) := by
  rw [Work.perform_bind, Work.perform_conflictAs, Work.perform_onAccounts]
  cases (r.accounts.save b).1 with
  | ok => rfl
  | error e => rfl

/-- Every texture that is set is one of those that are there. -/
theorem textures_of_took {s : Scene} {q : UpdateRequest} (p : ProfileColumns)
    {skin cape : Option Image} (tookSkin : s.Took .skin q.skin skin)
    (tookCape : s.Took .cape q.cape cape) {textures : Texture.Store}
    (hasSkin : ∀ i ∈ skin, textures.contains i.kind i.contentHash = true)
    (hasCape : ∀ i ∈ cape, textures.contains i.kind i.contentHash = true) (kind : Kind)
    (hash : String) (asked : (q.source kind).isSome)
    (has : ((p.withTexture skin).withTexture cape).textureHash kind = some hash) :
    textures.contains kind hash = true := by
  rw [ProfileColumns.withTexture_skin p tookSkin.kind,
    ProfileColumns.withTexture_cape _ tookCape.kind] at has
  obtain ⟨source, given⟩ := Option.isSome_iff_exists.mp asked
  cases kind with
  | skin =>
    have given : q.skin = some source := given
    rw [given] at tookSkin
    cases tookSkin with
    | @some _ i taken =>
      obtain rfl : i.contentHash = hash := Option.some.inj has
      exact Texture.Source.image_kind taken ▸ hasSkin i rfl
  | cape =>
    have given : q.cape = some source := given
    rw [given] at tookCape
    cases tookCape with
    | @some _ i taken =>
      obtain rfl : i.contentHash = hash := Option.some.inj has
      exact Texture.Source.image_kind taken ▸ hasCape i rfl

/-- Storing fails where a salt is too short or the texture store refuses, or it comes to a save. -/
theorem outcome_of_storeChanges {s : Scene} {a : Account} {q : UpdateRequest} {r r' : Registry}
    {text : ProfileColumns} {skin cape : Option Image}
    (passed : firstFault (s.checkFaults a q) = none) (texts : s.textChanges a q = .ok text)
    (tookSkin : s.Took .skin q.skin skin) (tookCape : s.Took .cape q.cape cape)
    (accounts : r'.accounts = r.accounts) (draws : r'.draws = r.draws) :
    s.UpdateOutcome a q r ((s.storeChanges a q text skin cape).perform r') := by
  obtain ⟨rfl, faultless⟩ := textChanges_ok texts
  rw [storeChanges]
  rcases perform_passwordIf s q.newPassword (withText a q) r' with
    ⟨text, short, failed⟩ | ⟨p, drawn, done, only, kept, changed⟩
  · rw [Work.perform_bind_error failed]
    exact .unhashed passed (draws ▸ short) accounts
  · rw [Work.perform_bind_ok done]
    rcases perform_keepIf s skin p _ with
      ⟨access, kind, refuses, failed⟩ | ⟨skins, done, hasSkin, -⟩
    · rw [Work.perform_bind_error failed]
      exact .refused passed refuses accounts
    · rw [Work.perform_bind_ok done]
      rcases perform_keepIf s cape (p.withTexture skin) _ with
        ⟨access, kind, refuses, failed⟩ | ⟨capes, done, hasCape, more⟩
      · rw [Work.perform_bind_error failed]
        exact .refused passed refuses accounts
      · rw [Work.perform_bind_ok done, perform_save]
        rw [draws] at changed
        have updates : s.Updates a q
            { a with profile := (p.withTexture skin).withTexture cape } := by
          refine updates_of_stages only faultless kept ?_ tookSkin tookCape
          intro given asked
          exact Credentials.newPassword_verify (changed given asked)
        -- The skin was stored first; storing the cape has left it there.
        have there : ∀ i ∈ skin, capes.contains i.kind i.contentHash = true := fun i hi =>
          more _ _ (hasSkin i hi)
        have prepared : s.Prepared a q r
            { a with profile := (p.withTexture skin).withTexture cape }
            { r' with draws := drawn, textures := capes } :=
          ⟨updates, by simpa using changed, textures_of_took p tookSkin tookCape there hasCape,
            accounts⟩
        dsimp only
        rw [accounts]
        exact .save passed prepared

theorem outcome_updateProfile (s : Scene) (a : Account) (q : UpdateRequest) (r : Registry) :
    s.UpdateOutcome a q r ((s.updateProfile a q).perform r) := by
  have faults : firstFault (s.checkFaults a q) = (firstFault (s.textFaults a q)).or
      ((s.textureFault .skin q.skin).or (s.textureFault .cape q.cape)) := by
    rw [checkFaults, firstFault_append]
    cases s.textureFault .skin q.skin <;> cases s.textureFault .cape q.cape <;> rfl
  have texts := textChanges_firstFault s a q
  rw [updateProfile_eq]
  cases text : firstFault (s.textFaults a q) with
  | some e =>
    rw [text] at texts faults
    have textsDone : (Work.ofResult (s.textChanges a q)).perform r = (.error e, r) := by
      rw [Work.perform_ofResult, texts]
    rw [Work.perform_bind_error textsDone]
    exact .fault faults rfl rfl
  | none =>
    rw [text] at texts faults
    have textsDone : (Work.ofResult (s.textChanges a q)).perform r = (.ok (withText a q), r) := by
      rw [Work.perform_ofResult, texts]
    rw [Work.perform_bind_ok textsDone]
    obtain ⟨sent, skinDone⟩ := perform_ingestIf s .skin q.skin r
    cases skin : s.imageIf .skin q.skin with
    | error e =>
      rw [skin] at skinDone
      rw [textureFault_of_imageIf, skin] at faults
      rw [Work.perform_bind_error skinDone]
      exact .fault faults rfl rfl
    | ok skinImage =>
      rw [skin] at skinDone
      rw [textureFault_of_imageIf, skin] at faults
      rw [Work.perform_bind_ok skinDone]
      obtain ⟨sent', capeDone⟩ := perform_ingestIf s .cape q.cape { r with sent }
      cases cape : s.imageIf .cape q.cape with
      | error e =>
        rw [cape] at capeDone
        rw [textureFault_of_imageIf, cape] at faults
        rw [Work.perform_bind_error capeDone]
        exact .fault faults rfl rfl
      | ok capeImage =>
        rw [cape] at capeDone
        rw [textureFault_of_imageIf, cape] at faults
        rw [Work.perform_bind_ok capeDone]
        exact outcome_of_storeChanges faults texts (.of_imageIf skin) (.of_imageIf cape) rfl rfl

def nameTaken : Error := .conflict "That player name is taken."

/-- The name that is asked for belongs to another account. -/
def takenFault (t : AccountTable) (a : Account) (q : UpdateRequest) : Option Error :=
  q.playerName.bind fun name =>
    if t.rows.any fun x => x.account.id ≠ a.id && x.account.profile.playerName = name then
      some nameTaken
    else none

/-- All that can be wrong with an update, in the order in which it is noticed. -/
def updateFaults (s : Scene) (t : AccountTable) (a : Account) (q : UpdateRequest) :
    List (Option Error) :=
  s.checkFaults a q ++ [takenFault t a q]

theorem firstFault_updateFaults {s : Scene} {a : Account} {q : UpdateRequest}
    (passed : firstFault (s.checkFaults a q) = none) (t : AccountTable) :
    firstFault (s.updateFaults t a q) = takenFault t a q := by
  rw [updateFaults, firstFault_append, passed]
  cases takenFault t a q <;> rfl

/-- A save finds its name taken only where another name was asked for, and that one is taken. -/
theorem takenFault_of_updates {s : Scene} {a b : Account} {q : UpdateRequest} {t : AccountTable}
    (coherent : t.Coherent) (stored : (⟨a, true⟩ : Row) ∈ t.rows) (updates : s.Updates a q b) :
    takenFault t a q =
      if t.rows.any fun x =>
          x.account.id ≠ b.id && x.account.profile.playerName = b.profile.playerName then
        some nameTaken
      else none := by
  have hid : b.id = a.id := by rw [updates.rest]
  by_cases sets : q.Sets .playerName
  · have granted : q.playerName = some b.profile.playerName := updates.granted .playerName sets
    rw [takenFault, granted, hid]
    rfl
  · have leaves : q.playerName = none := by simpa [UpdateRequest.Sets] using sets
    have kept : b.profile.playerName = a.profile.playerName := updates.kept .playerName sets
    rw [takenFault, leaves, if_neg]
    · rfl
    · simp only [List.any_eq_true, Bool.and_eq_true, decide_eq_true_eq, hid, kept]
      rintro ⟨x, hx, other, same⟩
      have own : x = ⟨a, true⟩ :=
        coherent.playerNames x hx _ stored (by simp) (congrArg some same)
      exact other (by rw [own])

/-- A save that succeeds puts the account in its row, as it is handed back. -/
theorem saved_row {s : Scene} {a b : Account} {q : UpdateRequest} {t : AccountTable}
    (coherent : t.Coherent) (stored : (⟨a, true⟩ : Row) ∈ t.rows) (updates : s.Updates a q b) :
    (t.modify b.id fun x => ⟨{ x.account with profile := b.profile }, true⟩) =
      t.modify a.id fun _ => ⟨b, true⟩ := by
  have hid : b.id = a.id := by rw [updates.rest]
  rw [AccountTable.modify]
  rw [hid]
  refine congrArg (AccountTable.mk · t.lastId) (List.map_congr_left fun x hx => ?_)
  by_cases own : x.account.id = a.id
  · have : x = ⟨a, true⟩ := coherent.ids x hx _ stored (by simp) (congrArg some own)
    subst this
    rw [if_pos own, if_pos own]
    exact congrArg (Row.mk · true) updates.rest.symm
  · rw [if_neg own, if_neg own]

end Scene

/-- An error in what was sent or fetched. -/
def Error.IsRefusal : Error → Prop
  | .validation _ _ => True
  | .forbidden _ => True
  | .externalFetch _ => True
  | _ => False

/-- An update of a stored account either fails or does all that it was asked to. If it fails, the
account table is as it was, and so is the texture store where the fault is in what was sent or
fetched. With salts that can be used and a texture store that refuses nothing, it fails exactly if
there is a fault, with the first. If it succeeds, its account is the only one that has changed, in
what was asked for and nothing else, and its new textures are stored. -/
theorem update_all_or_nothing {admits : Run → Scene → Operation → Prop} {x : Run}
    (reached : Run.Reached admits x) {a : Account}
    (stored : (⟨a, true⟩ : Row) ∈ x.registry.accounts.rows) (s : Scene) (q : UpdateRequest)
    {result : Result Account} {r : Registry}
    (done : (s.updateProfile a q).perform x.registry = (result, r)) :
    (∀ e, result = .error e → r.accounts = x.registry.accounts ∧
      (e.IsRefusal → r.textures = x.registry.textures)) ∧
    ((∀ access kind, s.refuses access kind = false) → (∀ k, 8 ≤ (s.random.salt k).size) →
      ∀ e, result = .error e ↔
        firstFault (s.updateFaults x.registry.accounts a q) = some e) ∧
    (∀ b, result = .ok b →
      r.accounts = x.registry.accounts.modify a.id (fun _ => ⟨b, true⟩) ∧
      s.Updates a q b ∧
      (∀ given, q.newPassword = some given → s.service.credentials.newPassword given
        (s.random.salt x.registry.draws) = .ok b.profile.password) ∧
      ∀ kind hash, (q.source kind).isSome → b.profile.textureHash kind = some hash →
        r.textures.contains kind hash = true) := by
  have outcome := s.outcome_updateProfile a q x.registry
  rw [done] at outcome
  cases outcome with
  | @fault e _ found accounts textures =>
    refine ⟨?_, ?_, by simp⟩
    · exact fun _ _ => ⟨accounts, fun _ => textures⟩
    · intro _ _ e'
      have first : firstFault (s.updateFaults x.registry.accounts a q) = some e := by
        rw [Scene.updateFaults, Scene.firstFault_append, found, Option.some_or]
      rw [first]
      simp
  | unhashed _ short accounts =>
    refine ⟨?_, ?_, by simp⟩
    · rintro _ ⟨⟩
      exact ⟨accounts, False.elim⟩
    · intro _ salts
      exact absurd short (Nat.not_lt.mpr (salts _))
  | refused _ refuses accounts =>
    refine ⟨?_, ?_, by simp⟩
    · rintro _ ⟨⟩
      exact ⟨accounts, False.elim⟩
    · intro accepts
      simp [accepts] at refuses
  | @save b r' passed prepared =>
    have coherent := reached.coherent
    have updates := prepared.updates
    have first := Scene.firstFault_updateFaults passed x.registry.accounts
    rw [Scene.takenFault_of_updates coherent stored updates] at first
    rw [first]
    rcases AccountTable.save_cases x.registry.accounts b with
      ⟨absent, -⟩ | ⟨-, clash, he⟩ | ⟨-, free, he⟩
    · exact absurd (by rw [updates.rest]) (absent _ stored)
    · rw [he, if_pos (by simpa using clash)]
      refine ⟨?_, ?_, by simp [Except.map, Except.mapError]⟩
      · rintro _ ⟨⟩
        exact ⟨rfl, False.elim⟩
      · intro _ _ e
        simp [Except.map, Except.mapError, Work.reworded, AccountTable.taken, Scene.nameTaken]
    · rw [he, if_neg (by simpa using free)]
      refine ⟨by simp [Except.map, Except.mapError], by simp [Except.map, Except.mapError], ?_⟩
      rintro _ ⟨⟩
      exact ⟨Scene.saved_row coherent stored updates, updates, prepared.password,
        prepared.textures⟩

/-- A change of name is in the row of the account, and nothing is wrong with it. -/
theorem alice_is_renamed :
    (Scene.plain.updateProfile Alice.account Alice.newName).perform Alice.registry =
      (.ok Alice.renamed, Alice.afterNewName) ∧
    Alice.afterNewName.accounts =
      Alice.registry.accounts.modify 1 (fun _ => ⟨Alice.renamed, true⟩) ∧
    Scene.plain.Updates Alice.account Alice.newName Alice.renamed := by
  have reached : Run.Reached (fun _ _ _ => True) Alice.run := Alice.reached trivial
  have stored : (⟨Alice.account, true⟩ : Row) ∈ Alice.run.registry.accounts.rows :=
    List.mem_singleton.mpr rfl
  obtain ⟨-, -, succeeds⟩ :=
    update_all_or_nothing reached stored Scene.plain Alice.newName Alice.perform_newName
  obtain ⟨rows, updates, -⟩ := succeeds _ rfl
  exact ⟨Alice.perform_newName, rows, updates⟩

end PlayerRegistry
