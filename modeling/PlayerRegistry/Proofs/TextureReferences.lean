import PlayerRegistry.Proofs.CarriedAccounts
import PlayerRegistry.Proofs.Deletions
import PlayerRegistry.Proofs.TextureHistory

/-!
# References to textures

Operations that follow one another, each on the accounts as they are, with a texture store that
refuses nothing. An account may record a texture that is not there any more, but only where another
account that recorded the same one has been deleted since it was stored last.
-/

namespace PlayerRegistry

open Texture (Kind Image)
open TextureEvent (LastStored Decides stored deleted)

namespace AccountTable

/-- Accounts keep the textures that they record, and new accounts record none. -/
structure CarriesTextures (t t' : AccountTable) : Prop where
  ids : t.lastId ≤ t'.lastId
  rows : ∀ y ∈ t'.rows,
    (∃ x ∈ t.rows, x.account.id = y.account.id ∧
      ∀ kind, x.account.profile.textureHash kind = y.account.profile.textureHash kind) ∨
    ((t.lastId : Int) < y.account.id ∧ ∀ kind, y.account.profile.textureHash kind = none)

end AccountTable

/-- Nothing but an update changes what accounts record. -/
theorem Operation.carriesTextures (s : Scene) {op : Operation} (other : ∀ a q, op ≠ .update a q)
    (r : Registry) : r.accounts.CarriesTextures ((op.work s).perform r).2.accounts := by
  have carries := op.carries (N := fun _ profile => ∀ kind, profile.textureHash kind = none) s
    other (fun new _ id kind => by cases kind <;> rfl) r
  refine ⟨carries.ids, fun y hy => (carries.rows y hy).imp_left ?_⟩
  rintro ⟨x, hx, sameId, -, same⟩
  exact ⟨x, hx, sameId, fun kind => by rw [same]⟩

theorem Operation.textures_same (s : Scene) {op : Operation} (noUpdate : ∀ a q, op ≠ .update a q)
    (noDelete : ∀ a, op ≠ .delete a) (r : Registry) :
    ((op.work s).perform r).2.textures = r.textures := by
  have none : ∀ change, ¬op.Changes s change := by
    intro change changes
    cases op with
    | update a q => exact noUpdate a q rfl
    | delete a => exact noDelete a rfl
    | _ => exact changes
  exact Work.Spares.same ((op.spares_work s).mono (fun _ h => h.mono none) fun _ h => h) r

/-- Nothing but a deletion of an account that records it removes a texture. -/
theorem Operation.removes (s : Scene) (op : Operation) (r : Registry) {kind : Kind} {hash : String}
    (there : r.textures.contains kind hash = true)
    (gone : ((op.work s).perform r).2.textures.contains kind hash = false) :
    ∃ a, op = .delete a ∧ a.profile.textureHash kind = some hash := by
  by_contra none
  have kept := (op.spares_work s).relates
    (R := fun t t' => t.contains kind hash = true → t'.contains kind hash = true)
    (fun _ h => h) (fun _ _ _ h h' => h' ∘ h) ?_ r there
  · simp [gone] at kept
  · intro change changes t
    refine change.keeps ?_
    rintro rfl
    cases op with
    | delete a => exact none ⟨a, rfl, changes⟩
    | _ => exact changes

/-- What an operation does to textures, the last first. -/
def Operation.textureEvents (s : Scene) (r : Registry) : Operation → List TextureEvent
  | update a q => ((s.storedBy a q r).map fun i => .stored i.kind i.contentHash).reverse
  | delete a =>
    a.profile.capeHash.toList.map (.deleted a.id .cape) ++
      a.profile.skinHash.toList.map (.deleted a.id .skin)
  | _ => []

/-- A registry after operations that were done one after another with a texture store that refuses
nothing, and what they did to textures, the last first. -/
inductive Served : List TextureEvent → Registry → Prop
  | start : Served [] .empty
  | operation {events r} (before : Served events r) (s : Scene) (op : Operation)
      (accepts : ∀ access kind, s.refuses access kind = false)
      (current : op.SeesCurrent r.accounts) :
      Served (op.textureEvents s r ++ events) ((op.work s).perform r).2

/-- The texture store and what accounts record agree with the history. -/
structure TextureEvent.Explains (events : List TextureEvent) (r : Registry) : Prop where
  decides : Decides events r.textures
  recorded : ∀ x ∈ r.accounts.rows, ∀ kind hash,
    x.account.profile.textureHash kind = some hash → stored kind hash ∈ events
  gone : ∀ id kind hash, deleted id kind hash ∈ events →
    id ≤ r.accounts.lastId ∧ ∀ x ∈ r.accounts.rows, x.account.id ≠ id

namespace TextureEvent

variable {events : List TextureEvent} {r r' : Registry}

/-- Where accounts keep what they record, and no texture changes, the same history explains it. -/
theorem Explains.carry (h : Explains events r) (textures : r'.textures = r.textures)
    (accounts : r.accounts.CarriesTextures r'.accounts) : Explains events r' where
  decides := textures ▸ h.decides
  recorded y hy kind hash has := by
    rcases accounts.rows y hy with ⟨x, hx, -, same⟩ | ⟨-, blank⟩
    · exact h.recorded x hx kind hash ((same kind).trans has)
    · simp [blank kind] at has
  gone id kind hash happened := by
    obtain ⟨given, absent⟩ := h.gone id kind hash happened
    have ids := accounts.ids
    refine ⟨by omega, fun y hy own => ?_⟩
    rcases accounts.rows y hy with ⟨x, hx, same, -⟩ | ⟨new, -⟩
    · exact absent x hx (same.trans own)
    · omega

end TextureEvent

section
variable {s : Scene} {a b : Account} {q : UpdateRequest} {r r' : Registry}

theorem Scene.imageOf_of_ok {kind : Kind} {source : Texture.Source} {image : Image}
    (given : q.source kind = some source) (read : source.image s kind = .ok image) :
    s.imageOf q kind = some image := by
  simp [imageOf, given, imageIf, read, Except.map, Except.toOption]

/-- An update that succeeds has stored the images that it was given. -/
theorem Scene.storedBy_of_ok (done : (s.updateProfile a q).perform r = (.ok b, r')) :
    s.storedBy a q r = (s.imageOf q .skin).toList ++ (s.imageOf q .cape).toList := by
  obtain ⟨passed, r₁, prepared, -⟩ := Scene.updateProfile_ok done
  rw [storedBy, if_neg]
  rintro (found | ⟨given, short⟩)
  · simp [passed] at found
  · obtain ⟨password, given⟩ := Option.isSome_iff_exists.mp given
    have long := (Credentials.newPassword_eq_ok (prepared.password password given)).1
    omega

/-- An update that succeeds leaves its row recording what was there before, or what it has
stored. -/
theorem TextureEvent.Explains.update {events : List TextureEvent} (h : Explains events r)
    (accepts : ∀ access kind, s.refuses access kind = false)
    (current : (⟨a, true⟩ : Row) ∈ r.accounts.rows) :
    Explains ((Operation.update a q).textureEvents s r ++ events)
      ((s.updateProfile a q).perform r).2 := by
  have decides := Scene.decides_storing h.decides (s.storedBy a q r)
  rw [← Scene.textures_updateProfile accepts a q r] at decides
  have undeleted : ∀ id kind hash, deleted id kind hash ∈
      (Operation.update a q).textureEvents s r ++ events → deleted id kind hash ∈ events := by
    intro id kind hash happened
    simpa [Operation.textureEvents] using happened
  rcases Scene.accounts_updateProfile s a q r with
    ⟨e, r', failed, same, -⟩ | ⟨b, r', done, updates, saved⟩
  · rw [failed] at decides ⊢
    refine ⟨decides, ?_, ?_⟩ <;> rw [same]
    · exact fun x hx kind hash has => List.mem_append_right _ (h.recorded x hx kind hash has)
    · exact fun id kind hash happened => h.gone id kind hash (undeleted id kind hash happened)
  · rw [done] at decides ⊢
    refine ⟨decides, ?_, ?_⟩ <;> rw [saved]
    · intro y hy kind hash has
      obtain ⟨x, hx, rfl⟩ := AccountTable.mem_modify.mp hy
      by_cases own : x.account.id = a.id
      · rw [if_pos own] at has
        have has : b.profile.textureHash kind = some hash := has
        rcases updates.texture kind with ⟨source, image, given, read, new⟩ | ⟨-, kept⟩
        · have among : image ∈ s.storedBy a q r := by
            rw [Scene.storedBy_of_ok done]
            have given := Scene.imageOf_of_ok given read
            cases kind <;> simp [given]
          rw [new] at has
          apply List.mem_append_left
          rw [← Option.some.inj has, ← Texture.Source.image_kind read]
          exact List.mem_reverse.mpr (List.mem_map_of_mem among)
        · rw [kept] at has
          exact List.mem_append_right _ (h.recorded _ current kind hash has)
      · rw [if_neg own] at has
        exact List.mem_append_right _ (h.recorded x hx kind hash has)
    · intro id kind hash happened
      obtain ⟨given, absent⟩ := h.gone id kind hash (undeleted id kind hash happened)
      refine ⟨given, fun y hy => ?_⟩
      obtain ⟨x, hx, rfl⟩ := AccountTable.mem_modify.mp hy
      split
      · exact absent x hx
      · exact absent x hx

theorem TextureEvent.Explains.delete {events : List TextureEvent} (h : Explains events r)
    (coherent : r.accounts.Coherent) (valid : a.HasContentHashes)
    (accepts : ∀ access kind, s.refuses access kind = false)
    (current : (⟨a, true⟩ : Row) ∈ r.accounts.rows) :
    Explains ((Operation.delete a).textureEvents s r ++ events)
      ((s.deleteAccount a).perform r).2 := by
  obtain ⟨result, textures, done, removed, -⟩ := Scene.perform_deleteAccount (s := s)
    ⟨_, current, rfl⟩ valid
  obtain ⟨-, rfl⟩ := removed fun kind => accepts .delete kind
  rw [done, Operation.textureEvents, List.append_assoc]
  have kept : ∀ {kind hash}, stored kind hash ∈ events →
      stored kind hash ∈ a.profile.capeHash.toList.map (.deleted a.id .cape) ++
        (a.profile.skinHash.toList.map (.deleted a.id .skin) ++ events) :=
    fun h => List.mem_append_right _ (List.mem_append_right _ h)
  refine ⟨(h.decides.withoutIf (valid .skin) a.id).withoutIf (valid .cape) a.id, ?_, ?_⟩
  · intro x hx kind hash has
    exact kept (h.recorded x (List.mem_filter.mp hx).1 kind hash has)
  · intro id kind hash happened
    have now : id = a.id ∨ deleted id kind hash ∈ events := by
      simp only [List.mem_append, List.mem_map, Option.mem_toList] at happened
      rcases happened with ⟨_, -, ⟨⟩⟩ | ⟨_, -, ⟨⟩⟩ | earlier
      · exact .inl rfl
      · exact .inl rfl
      · exact .inr earlier
    rcases now with rfl | earlier
    · refine ⟨(coherent.numbered _ current).2, fun x hx => ?_⟩
      simpa using (List.mem_filter.mp hx).2
    · obtain ⟨given, absent⟩ := h.gone id kind hash earlier
      exact ⟨given, fun x hx => absent x (List.mem_filter.mp hx).1⟩

end

namespace Served

variable {events : List TextureEvent} {r : Registry}

theorem reached (served : Served events r) :
    ∃ x, Run.Reached Run.SeesStored x ∧ x.registry = r := by
  induction served with
  | start => exact ⟨.start, .refl, rfl⟩
  | operation before s op accepts current ih =>
    obtain ⟨x, reached, rfl⟩ := ih
    exact reached.follow s current

theorem explains (served : Served events r) : TextureEvent.Explains events r := by
  induction served with
  | start =>
    refine ⟨TextureEvent.decides_empty, ?_, ?_⟩
    · simp [Registry.empty, AccountTable.empty]
    · simp
  | @operation events r before s op accepts current ih =>
    obtain ⟨x, reached, rfl⟩ := before.reached
    cases op with
    | update a q =>
      rw [Operation.work, Work.perform_ended]
      exact ih.update accepts current
    | delete a =>
      exact ih.delete reached.coherent (reached.contentHashes _ current) accepts current
    | _ =>
      refine ih.carry (Operation.textures_same s ?_ ?_ x.registry)
        (Operation.carriesTextures s ?_ x.registry)
      all_goals simp

/-- An update that succeeds leaves a row with its account, whose new textures are there. -/
theorem updated (served : Served events r) {s : Scene} {a b : Account} {q : UpdateRequest}
    {r' : Registry} (current : (⟨a, true⟩ : Row) ∈ r.accounts.rows)
    (done : (s.updateProfile a q).perform r = (.ok b, r')) :
    (⟨b, true⟩ : Row) ∈ r'.accounts.rows ∧ ∀ kind, (q.source kind).isSome →
      ∃ hash, b.profile.textureHash kind = some hash ∧ r'.textures.contains kind hash = true := by
  obtain ⟨x, reached, rfl⟩ := served.reached
  obtain ⟨-, r₁, prepared, rfl⟩ := Scene.updateProfile_ok done
  constructor
  · dsimp only
    rw [Scene.saved_row reached.coherent current prepared.updates]
    exact AccountTable.mem_modify.mpr ⟨_, current, if_pos rfl⟩
  · intro kind given
    rcases prepared.updates.texture kind with ⟨_, image, -, -, new⟩ | ⟨absent, -⟩
    · exact ⟨_, new, prepared.textures kind _ given new⟩
    · simp [absent] at given

/-- A texture that is recorded and not there has been removed with another account since it was
stored last. -/
theorem dangling (served : Served events r) {x : Row} (hx : x ∈ r.accounts.rows) {kind : Kind}
    {hash : String} (recorded : x.account.profile.textureHash kind = some hash)
    (absent : r.textures.contains kind hash = false) :
    ∃ after before, events = after ++ stored kind hash :: before ∧ stored kind hash ∉ after ∧
      ∃ id, id ≠ x.account.id ∧ deleted id kind hash ∈ after := by
  have explains := served.explains
  obtain ⟨after, before, split, last⟩ :=
    List.eq_append_cons_of_mem (explains.recorded x hx kind hash recorded)
  have removed : ∃ id, deleted id kind hash ∈ after := by
    by_contra none
    have there := (explains.decides kind hash).mpr
      ⟨after, before, split, fun id h => none ⟨id, h⟩⟩
    simp [absent] at there
  obtain ⟨id, happened⟩ := removed
  refine ⟨after, before, split, last, id, ?_, happened⟩
  rintro rfl
  exact (explains.gone _ kind hash (split ▸ List.mem_append_left _ happened)).2 x hx rfl

end Served

/-- Whatever has been done, one operation after another and with a texture store that refuses
nothing: a texture is there exactly if the last that was done to it is that it was stored. An update
that succeeds leaves its new textures there. What an account records is missing only if another
account that recorded it has been deleted since it was stored last, and nothing but the deletion of
an account that records it removes a texture. -/
theorem texture_references {events : List TextureEvent} {r : Registry} (served : Served events r) :
    (∀ kind hash, r.textures.contains kind hash = true ↔ LastStored events kind hash) ∧
    (∀ (s : Scene) a b q r', (⟨a, true⟩ : Row) ∈ r.accounts.rows →
      (s.updateProfile a q).perform r = (.ok b, r') →
      (⟨b, true⟩ : Row) ∈ r'.accounts.rows ∧ ∀ kind, (q.source kind).isSome →
        ∃ hash, b.profile.textureHash kind = some hash ∧
          r'.textures.contains kind hash = true) ∧
    (∀ x ∈ r.accounts.rows, ∀ kind hash, x.account.profile.textureHash kind = some hash →
      r.textures.contains kind hash = false →
      ∃ after before, events = after ++ stored kind hash :: before ∧ stored kind hash ∉ after ∧
        ∃ id, id ≠ x.account.id ∧ deleted id kind hash ∈ after) ∧
    (∀ (s : Scene) (op : Operation) kind hash, r.textures.contains kind hash = true →
      ((op.work s).perform r).2.textures.contains kind hash = false →
      ∃ a, op = .delete a ∧ a.profile.textureHash kind = some hash) :=
  ⟨served.explains.decides, fun _ _ _ _ _ => served.updated,
    fun _ hx _ _ => served.dangling hx, fun s op _ _ => op.removes s r⟩

theorem Served.follow {events : List TextureEvent} {r r' : Registry} (before : Served events r)
    (s : Scene) (op : Operation) (accepts : ∀ access kind, s.refuses access kind = false)
    (current : op.SeesCurrent r.accounts) {α : Type} {w : Work α} {result : Result α}
    (work : op.work s = do let _ ← w) (done : w.perform r = (result, r')) :
    Served (op.textureEvents s r ++ events) r' := by
  have next := before.operation s op accepts current
  rwa [work, Work.perform_ended, done] at next

namespace Carol

open Scene (plain)
open Alice (blankImage blankSkin inBlankSkin perform_blankSkin)

theorem served_blankSkin {events : List TextureEvent} {r : Registry} (before : Served events r)
    {a : Account} (current : (⟨a, true⟩ : Row) ∈ r.accounts.rows) {t : AccountTable}
    (saved : r.accounts.save (inBlankSkin a) = (.ok (), t)) :
    Served (stored .skin blankImage.contentHash :: events)
      { r with accounts := t, textures := Scene.storing r.textures [blankImage] } := by
  have done := perform_blankSkin saved
  have read := (Texture.Source.image_upload plain .skin (Texture.canonical Texture.blankSkin)).trans
    (Texture.validate_blankSkin (by decide) (by decide))
  have given : plain.imageOf blankSkin .skin = some blankImage := Scene.imageOf_of_ok rfl read
  have events : (Operation.update a blankSkin).textureEvents plain r =
      [stored .skin blankImage.contentHash] := by
    rw [Operation.textureEvents, Scene.storedBy_of_ok done, given]
    rfl
  have next := before.follow plain (.update a blankSkin) (fun _ _ => rfl) current rfl done
  rwa [events] at next

/-- Alice and Carol wear the same skin. -/
def twins : Registry :=
  { registry (inBlankSkin Alice.account) (inBlankSkin account) with
    textures := Scene.storing (Scene.storing .empty [blankImage]) [blankImage] }

theorem served_twins : Served
    [stored .skin blankImage.contentHash, stored .skin blankImage.contentHash] twins := by
  have alice : Served [] Alice.registry :=
    .operation .start plain (.register Alice.request) (fun _ _ => rfl) trivial
  have both : Served [] (registry Alice.account account) :=
    alice.follow plain (.register request) (fun _ _ => rfl) trivial rfl perform_request
  have first := served_blankSkin both (a := Alice.account) List.mem_cons_self rfl
  exact served_blankSkin first (a := account) (List.mem_cons_of_mem _ List.mem_cons_self) rfl

theorem carol_mem_twins : (⟨inBlankSkin account, true⟩ : Row) ∈ twins.accounts.rows :=
  List.mem_cons_of_mem _ List.mem_cons_self

theorem perform_deleteAccount_twins : ∃ textures,
    (plain.deleteAccount (inBlankSkin account)).perform twins = (.ok (),
      { twins with accounts := twins.accounts.without (inBlankSkin account).id, textures }) := by
  obtain ⟨_, reached, same⟩ := served_twins.reached
  obtain ⟨result, textures, done, removed, -⟩ := Scene.perform_deleteAccount (s := plain)
    ⟨_, carol_mem_twins, rfl⟩ (reached.contentHashes _ (same ▸ carol_mem_twins))
  obtain ⟨rfl, -⟩ := removed fun _ => rfl
  exact ⟨textures, done⟩

/-- The skin that both wear goes with Carol, and Alice is left with its hash until she sends it
again. -/
theorem skin_goes_with_carol :
    ∃ r r', (plain.deleteAccount (inBlankSkin account)).perform twins = (.ok (), r) ∧
      (plain.updateProfile (inBlankSkin Alice.account) blankSkin).perform r =
        (.ok (inBlankSkin Alice.account), r') ∧
      twins.textures.contains .skin blankImage.contentHash = true ∧
      r.textures.contains .skin blankImage.contentHash = false ∧
      (inBlankSkin account).profile.textureHash .skin = some blankImage.contentHash ∧
      (⟨inBlankSkin Alice.account, true⟩ : Row) ∈ r.accounts.rows ∧
      (inBlankSkin Alice.account).profile.textureHash .skin = some blankImage.contentHash ∧
      (∃ id, id ≠ Alice.account.id ∧ deleted id .skin blankImage.contentHash ∈
        [deleted 2 .skin blankImage.contentHash, stored .skin blankImage.contentHash,
          stored .skin blankImage.contentHash]) ∧
      r'.textures.contains .skin blankImage.contentHash = true := by
  obtain ⟨textures, done⟩ := perform_deleteAccount_twins
  have served := served_twins.operation plain (.delete (inBlankSkin account)) (fun _ _ => rfl)
    carol_mem_twins
  obtain ⟨history, -, -, removes⟩ := texture_references served_twins
  have there := (history .skin blankImage.contentHash).mpr ⟨[], _, rfl, by simp⟩
  have gone := removes plain (.delete (inBlankSkin account)) .skin blankImage.contentHash there
  rw [Operation.work, done] at served gone
  obtain ⟨history', updated, dangling, -⟩ := texture_references served
  have absent : textures.contains .skin blankImage.contentHash = false := by
    rw [← Bool.not_eq_true, history' .skin blankImage.contentHash]
    exact fun last => (TextureEvent.lastStored_deleted.mp last).1 rfl
  obtain ⟨_, ⟨⟩, recorded⟩ := gone absent
  have alice : (⟨inBlankSkin Alice.account, true⟩ : Row) ∈
      (twins.accounts.without (inBlankSkin account).id).rows := List.mem_cons_self
  obtain ⟨after, before, split, -, id, other, happened⟩ :=
    dangling _ alice .skin blankImage.contentHash rfl absent
  have again := perform_blankSkin (a := inBlankSkin Alice.account)
    (r := { twins with accounts := twins.accounts.without 2, textures }) rfl
  obtain ⟨-, kept⟩ := updated plain _ _ blankSkin _ alice again
  obtain ⟨_, ⟨⟩, back⟩ := kept .skin rfl
  have among := List.mem_append_left (stored .skin blankImage.contentHash :: before) happened
  rw [← split] at among
  exact ⟨_, _, done, again, there, absent, recorded, alice, rfl, ⟨id, other, among⟩, back⟩

end Carol

end PlayerRegistry
