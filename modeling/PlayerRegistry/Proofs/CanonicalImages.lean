import PlayerRegistry.Proofs.HexText
import PlayerRegistry.Proofs.DecodedPictures
import PlayerRegistry.Proofs.ProfileChanges
import PlayerRegistry.Proofs.TextureShapes

/-!
# Canonical images

The bytes of an image that has been accepted are the canonical file of a complete picture in a legal
shape.
-/

namespace PlayerRegistry

namespace Texture

theorem Kind.shaped_of_checkShape {kind : Kind} {limit width height : UInt32}
    (h : checkShape kind limit width height = .ok ()) :
    kind.Shaped limit.toNat width.toNat height.toNat := by
  by_cases overflows : kind.Overflows width height
  · rw [checkShape_of_overflows overflows] at h
    cases h
  · exact (checkShape_eq_ok_iff overflows).mp h

/-- The canonical file of a picture. -/
def canonical (picture : Picture) : ByteArray := toByteArray (Png.encode picture)

/-- The bytes are the canonical file of a complete picture in a legal shape, and the hash is
theirs. -/
structure Genuine (limit : UInt32) (kind : Kind) (hash : String) (bytes : ByteArray) : Prop where
  digits : isContentHash hash = true
  hash : hash = Sha256.hexHash bytes
  picture : ∃ picture : Picture, picture.Complete ∧
    kind.Shaped limit.toNat picture.width.toNat picture.height.toNat ∧ bytes = canonical picture

/-- The image that a picture is accepted as. -/
def Image.ofPicture (kind : Kind) (picture : Picture) : Image :=
  ⟨kind, picture.width, picture.height, canonical picture⟩

/-- What holds of every picture that is accepted. -/
structure Kind.Admits (kind : Kind) (limit : UInt32) (picture : Picture) : Prop where
  complete : picture.Complete
  checked : checkShape kind limit picture.width picture.height = .ok ()
  fits : picture.width.toNat * picture.height.toNat ≤ Png.memoryLimit

theorem Kind.Admits.shaped {kind : Kind} {limit : UInt32} {picture : Picture}
    (h : kind.Admits limit picture) :
    kind.Shaped limit.toNat picture.width.toNat picture.height.toNat :=
  Kind.shaped_of_checkShape h.checked

section
variable {kind : Kind} {rules : Rules} {file : ByteArray} {image : Image}

theorem exists_picture_of_examine (h : examine kind rules file = .ok image) :
    ∃ picture, Png.decode? file.data.toList = some picture ∧
      kind.Admits rules.sizeLimit picture ∧ image = .ofPicture kind picture := by
  obtain ⟨width, height, picture, dimensions, checked, decoded, rfl⟩ := examine_ok h
  obtain ⟨complete, same, fits⟩ := Png.decode?_complete decoded
  obtain ⟨rfl, rfl⟩ := Prod.mk.inj (Option.some.inj (dimensions.symm.trans same))
  exact ⟨picture, decoded, ⟨complete, checked, fits⟩, rfl⟩

theorem genuine_of_examine (h : examine kind rules file = .ok image) :
    Genuine rules.sizeLimit image.kind image.contentHash image.bytes := by
  have valid := isContentHash_contentHash image
  obtain ⟨picture, -, admitted, rfl⟩ := exists_picture_of_examine h
  exact ⟨valid, rfl, picture, admitted.complete, admitted.shaped, rfl⟩

end

end Texture

end PlayerRegistry
