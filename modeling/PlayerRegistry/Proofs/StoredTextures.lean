import PlayerRegistry.Proofs.CanonicalImages
import PlayerRegistry.Proofs.RecordedTextures
import PlayerRegistry.Proofs.TextureStores

/-!
# What is stored

Nothing but accepted images is ever put into the texture store, and what is there is never changed.
So every texture of every state that a run can reach is genuine.
-/

namespace PlayerRegistry

open Texture (Kind Genuine)

namespace Texture

/-- All textures in the store are genuine. -/
def Store.AllGenuine (limit : UInt32) (t : Store) : Prop :=
  ∀ kind hash bytes, t.get kind hash = some bytes → Genuine limit kind hash bytes

/-- The change puts genuine textures only. -/
def Change.PutsGenuine (limit : UInt32) : Change → Prop
  | put image => Genuine limit image.kind image.contentHash image.bytes
  | delete _ _ => True

theorem Store.allGenuine_empty (limit : UInt32) : Store.empty.AllGenuine limit := by
  intro kind hash bytes there
  simp [get, empty] at there

theorem Store.AllGenuine.run {limit : UInt32} {t : Store} (h : t.AllGenuine limit)
    {change : Change} (puts : change.PutsGenuine limit) : (change.run t).AllGenuine limit := by
  intro kind hash bytes there
  change (change.run t).map (kind, hash) = some bytes at there
  cases change with
  | put image =>
    have valid := isContentHash_contentHash image
    rw [Change.run] at there
    cases stored : t.map (image.kind, image.contentHash) with
    | none =>
      rw [(map_put valid stored image.bytes).2, Function.update_apply] at there
      split at there
      · rename_i same
        obtain ⟨rfl, rfl⟩ := Prod.mk.inj same
        rw [← Option.some.inj there]
        exact puts
      · exact h kind hash bytes there
    | some old =>
      rw [put_of_present valid stored] at there
      exact h kind hash bytes there
  | delete kind' hash' =>
    rw [Change.run] at there
    by_cases valid : isContentHash hash' = true
    · rw [(map_delete valid).2, Function.update_apply] at there
      split at there
      · cases there
      · exact h kind hash bytes there
    · have same : (t.delete kind' hash').2 = t := by simp [delete, valid]
      rw [same] at there
      exact h kind hash bytes there

end Texture

theorem Operation.Changes.putsGenuine {s : Scene} {op : Operation} {change : Texture.Change}
    (h : op.Changes s change) : change.PutsGenuine s.service.config.skinSizeLimit := by
  cases change with
  | put image =>
    cases op with
    | update a q =>
      obtain ⟨kind, source, -, read⟩ := h
      obtain ⟨file, examined⟩ := Texture.Source.image_ok read
      exact Texture.genuine_of_examine examined
    | _ => exact h.elim
  | delete => trivial

namespace Run

/-- An update begins with an account that was stored, and all work is done under one limit. -/
def SeesStoredWithin (limit : UInt32) (x : Run) (s : Scene) (op : Operation) : Prop :=
  SeesStored x s op ∧ s.service.config.skinSizeLimit = limit

variable {limit : UInt32} {x y : Run}

/-- All textures are genuine, and nothing that is under way puts any other. -/
structure KeepsGenuine (limit : UInt32) (x : Run) : Prop where
  textures : x.registry.textures.AllGenuine limit
  works : Remaining (Work.Touches (Texture.Change.PutsGenuine limit)) x.works

theorem KeepsGenuine.next (h : x.KeepsGenuine limit) (next : Next (SeesStoredWithin limit) x y) :
    y.KeepsGenuine limit := by
  have stepped : ∀ {r : Registry} {update : Registry → Registry},
      r.textures.AllGenuine limit → Work.Touches (Texture.Change.PutsGenuine limit) update →
      (update r).textures.AllGenuine limit := by
    intro r update genuine touches
    rcases touches r with same | ⟨change, puts, changed⟩
    · exact same ▸ genuine
    · rw [changed]
      exact genuine.run puts
  cases next with
  | begin s op admitted =>
    refine ⟨h.textures, h.works.begin ((op.spares_work s).mono ?_ fun _ h => h)⟩
    intro update touches
    exact touches.mono fun change changes => admitted.2 ▸ changes.putsGenuine
  | @quiet _ r _ _ _ _ quiet =>
    obtain ⟨touches, works⟩ := h.works.step r
    exact ⟨stepped h.textures touches, works⟩
  | @statement _ r _ _ _ _ stmt performs =>
    obtain ⟨touches, works⟩ := h.works.step r
    exact ⟨stepped h.textures touches, works⟩

/-- Every texture that is there is genuine, whatever has been done and in whatever order. -/
theorem Reached.allGenuine (h : Reached (SeesStoredWithin limit) x) :
    x.registry.textures.AllGenuine limit := by
  suffices keeps : x.KeepsGenuine limit from keeps.textures
  induction h with
  | refl => exact ⟨Texture.Store.allGenuine_empty limit, by simp [Remaining, start]⟩
  | tail _ next ih => exact ih.next next

end Run

end PlayerRegistry
