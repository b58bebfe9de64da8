import PlayerRegistry.Proofs.StoredTextures
import PlayerRegistry.Proofs.TextureHistory
import PlayerRegistry.Proofs.TexturePages

/-!
# Textures by their content

From an accepted image to the answer at its URL: a texture is kept under the hash of its own bytes,
its URL leads to it and to nothing else, and no URL ever leads to two different files unless these
files collide.
-/

namespace PlayerRegistry

open Http (Request Response)
open Texture (Kind)

/-- Two different byte strings with the same hash. -/
def Sha256.Collide (a b : ByteArray) : Prop := a ≠ b ∧ hexHash a = hexHash b

/-- The URL of a texture in the view of an account. -/
def ProfileView.textureUrl (v : ProfileView) : Kind → Option String
  | .skin => v.skinUrl
  | .cape => v.capeUrl

/-- What follows the base in the URL of a texture is the route of the hash that the account
records. -/
theorem Account.textureUrl_view {a : Account} {base url : String} {kind : Kind}
    (shown : (a.view base).textureUrl kind = some url) :
    ∃ hash, a.profile.textureHash kind = some hash ∧
      url = Text.withoutTrailingSlashes base ++ Texture.route kind hash := by
  have recorded : (a.profile.textureHash kind).map (Texture.url base kind) = some url := by
    cases kind <;> exact shown
  obtain ⟨hash, has, rfl⟩ := Option.map_eq_some_iff.mp recorded
  exact ⟨hash, has, rfl⟩

/-- The response carries exactly these bytes. -/
def Http.Response.Carries (p : Response) (bytes : ByteArray) : Prop :=
  p.status = 200 ∧ p.body = bytes

namespace Site

variable {limit : Option Nat} {s : Scene} {site : Site} {q : Request} {kind file : String}

theorem GetsTexture.carries_iff (gets : GetsTexture limit s site q kind file) (png : ByteArray) :
    (((respond limit s q).run site).1.Carries png) ↔
      ∃ k hash, kind = Kind.name k ∧ file = hash ++ ".png" ∧
        site.registry.textures.get k hash = some png := by
  obtain ⟨message, answer⟩ := gets.answer
  rw [answer, ← found?_eq_some_iff]
  cases found? site.registry.textures kind file with
  | none => simp [Response.Carries, missingAnswer, Response.ofJson]
  | some found => simp [Response.Carries, textureAnswer, Response.ofPng]

theorem GetsTexture.missing (gets : GetsTexture limit s site q kind file)
    (absent : ∀ k hash, kind = Kind.name k → file = hash ++ ".png" →
      site.registry.textures.get k hash = none) :
    ∃ message, ((respond limit s q).run site).1 = missingAnswer message := by
  obtain ⟨message, answer⟩ := gets.answer
  refine ⟨message, ?_⟩
  rw [answer]
  cases there : found? site.registry.textures kind file with
  | none => rfl
  | some png =>
    obtain ⟨k, hash, known, named, has⟩ := found?_eq_some_iff.mp there
    simp [absent k hash known named] at has

end Site

/-- What two genuine textures with the same hash are, unless they are the same. -/
theorem Texture.Genuine.same_or_collide {size size' : UInt32} {kind kind' : Kind} {hash : String}
    {png png' : ByteArray} (h : Genuine size kind hash png) (h' : Genuine size' kind' hash png') :
    png = png' ∨ ∃ a b : Picture, a.Complete ∧ b.Complete ∧ png = canonical a ∧
      png' = canonical b ∧ Sha256.Collide png png' := by
  by_cases same : png = png'
  · exact .inl same
  · obtain ⟨a, completeA, -, fileA⟩ := h.picture
    obtain ⟨b, completeB, -, fileB⟩ := h'.picture
    exact .inr ⟨a, b, completeA, completeB, fileA, fileB, same, h.hash.symm.trans h'.hash⟩

namespace Run

open Site (GetsTexture Names respond missingAnswer)

/-- In every state of a run under one size limit, what is stored as a texture is the canonical file
of a legal picture, under the hash of its bytes. A request for a texture is answered with the
bytes of the texture of its names, and only with these; if there is none, nothing is found. The URL
of a texture in the view of an account leads to the hash that the account records. And where one
name is answered with two different files, be it at different times, these are canonical files with
the same hash. -/
theorem content_addressing {size : UInt32} {x : Run}
    (reached : Reached (SeesStoredWithin size) x) :
    (∀ kind hash png, x.registry.textures.get kind hash = some png →
      Texture.Genuine size kind hash png) ∧
    (∀ limit s site q kind file, site.registry = x.registry →
      GetsTexture limit s site q kind file →
      (∀ png, ((respond limit s q).run site).1.Carries png ↔
        ∃ k hash, kind = Kind.name k ∧ file = hash ++ ".png" ∧
          x.registry.textures.get k hash = some png) ∧
      ((∀ k hash, kind = Kind.name k → file = hash ++ ".png" →
        x.registry.textures.get k hash = none) →
          ∃ message, ((respond limit s q).run site).1 = missingAnswer message)) ∧
    (∀ a base kind url, x.Stored a → (a.view base).textureUrl kind = some url →
      ∃ hash, a.profile.textureHash kind = some hash ∧
        url = Text.withoutTrailingSlashes base ++ Texture.route kind hash ∧
        ∀ q : Request, q.target = Texture.route kind hash →
          Names q kind.name (hash ++ ".png")) ∧
    (∀ y limit limit' s s' site site' q q' kind file png png',
      Reached (SeesStoredWithin size) y →
      site.registry = x.registry → GetsTexture limit s site q kind file →
      ((respond limit s q).run site).1.Carries png →
      site'.registry = y.registry → GetsTexture limit' s' site' q' kind file →
      ((respond limit' s' q').run site').1.Carries png' →
      png = png' ∨ ∃ a b : Picture, a.Complete ∧ b.Complete ∧ png = Texture.canonical a ∧
        png' = Texture.canonical b ∧ Sha256.Collide png png') := by
  have genuine := reached.allGenuine
  refine ⟨genuine, ?_, ?_, ?_⟩
  · intro limit s site q kind file same gets
    rw [← same]
    exact ⟨gets.carries_iff, gets.missing⟩
  · intro a base kind url wasStored shown
    obtain ⟨hash, recorded, rest⟩ := Account.textureUrl_view shown
    refine ⟨hash, recorded, rest, fun q target => Site.names_route ?_ target⟩
    have seen : Reached SeesStored x := reached.mono fun _ _ _ admitted => admitted.1
    exact seen.always_contentHashes.of_stored (Q := fun p => ∀ kind hash,
      p.textureHash kind = some hash → Texture.isContentHash hash = true) (fun _ valid => valid)
      wasStored kind hash recorded
  · intro y limit limit' s s' site site' q q' kind file png png' reached' same gets carries same'
      gets' carries'
    obtain ⟨k, hash, known, named, there⟩ := (gets.carries_iff png).mp carries
    obtain ⟨k', hash', known', named', there'⟩ := (gets'.carries_iff png').mp carries'
    obtain rfl : k = k' := by
      rw [← Site.ofName?_eq_some_iff] at known known'
      exact Option.some.inj (known.symm.trans known')
    obtain rfl : hash = hash' := by
      rw [← Site.hashOfFile?_eq_some_iff] at named named'
      exact Option.some.inj (named.symm.trans named')
    rw [same] at there
    rw [same'] at there'
    exact (genuine _ _ _ there).same_or_collide (reached'.allGenuine _ _ _ there')

section
open Alice (blankImage blankSkin inBlankSkin perform_blankSkin)

/-- A request for a texture of the hash of that skin. -/
def blankRequest (kind : Kind) : Request :=
  ⟨"GET", Texture.route kind blankImage.contentHash, [], .empty, none⟩

/-- Alice's skin is found where its URL leads, and as a skin only. -/
theorem blank_skin_is_found : ∃ x : Run,
    Reached (SeesStoredWithin Scene.plain.service.config.skinSizeLimit) x ∧
    x.Stored (inBlankSkin Alice.account) ∧
    ((inBlankSkin Alice.account).view "https://example.org/").textureUrl .skin =
      some ("https://example.org" ++ (blankRequest .skin).target) ∧
    ((respond none .plain (blankRequest .skin)).run ⟨x.registry, none⟩).1.Carries
      (Texture.canonical Texture.blankSkin) ∧
    ∃ message, ((respond none .plain (blankRequest .cape)).run ⟨x.registry, none⟩).1 =
      missingAnswer message := by
  have started : Reached (SeesStoredWithin Scene.plain.service.config.skinSizeLimit) Alice.run :=
    Alice.reached ⟨fun _ _ same => (nomatch same), rfl⟩
  have known : Alice.run.Stored Alice.account :=
    ⟨_, List.mem_cons_self, _, List.mem_cons_self, rfl, rfl⟩
  have sees : SeesStored Alice.run .plain (.update Alice.account blankSkin) := by
    rintro _ _ ⟨⟩
    exact known
  have done := perform_blankSkin (a := Alice.account) (r := Alice.registry) rfl
  obtain ⟨x, reached, now⟩ := started.exists_after .plain (.update Alice.account blankSkin)
    ⟨sees, rfl⟩ rfl rfl done
  have worn : x.Stored (inBlankSkin Alice.account) := by
    refine ⟨x.registry.accounts, List.mem_cons_self, ⟨inBlankSkin Alice.account, true⟩, ?_, rfl,
      rfl⟩
    rw [now]
    exact List.mem_cons_self
  have stored : ∀ kind, x.registry.textures.get kind blankImage.contentHash =
      if kind = .skin then some blankImage.bytes else none := by
    rw [now]
    exact Scene.get_storing_empty blankImage
  obtain ⟨-, answers, urls, -⟩ := content_addressing reached
  have shown : ((inBlankSkin Alice.account).view "https://example.org/").textureUrl .skin =
      some (Texture.url "https://example.org/" .skin blankImage.contentHash) := rfl
  obtain ⟨_, ⟨⟩, leads, names⟩ := urls _ _ .skin _ worn shown
  have base : Text.withoutTrailingSlashes "https://example.org/" = "https://example.org" := by
    decide
  have getsSkin : GetsTexture none .plain ⟨x.registry, none⟩ (blankRequest .skin)
      (Kind.name .skin) (blankImage.contentHash ++ ".png") :=
    ⟨rfl, names _ rfl, rfl, rfl, fun _ => rfl⟩
  have getsCape : GetsTexture none .plain ⟨x.registry, none⟩ (blankRequest .cape)
      (Kind.name .cape) (blankImage.contentHash ++ ".png") :=
    ⟨rfl, Site.names_route (Texture.isContentHash_contentHash blankImage) rfl, rfl, rfl,
      fun _ => rfl⟩
  refine ⟨x, reached, worn, ?_, ?_, ?_⟩
  · rw [shown, leads, base]
    rfl
  · refine ((answers _ _ _ _ _ _ rfl getsSkin).1 _).mpr ⟨.skin, _, rfl, rfl, ?_⟩
    exact (stored .skin).trans (if_pos rfl)
  · refine (answers _ _ _ _ _ _ rfl getsCape).2 ?_
    intro k hash known named
    obtain rfl := (String.append_left_inj _).mp named
    cases k with
    | skin => exact absurd known (by decide)
    | cape => exact (stored .cape).trans (if_neg (by decide))

end

end Run

end PlayerRegistry
