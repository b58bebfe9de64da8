import PlayerRegistry.Proofs.CanonicalForms
import PlayerRegistry.Proofs.ChallengeSkins
import PlayerRegistry.Proofs.Runs

/-!
# Challenges in any encoding

The challenge for a name is a legal skin in its canonical form. Whether a skin is recognized depends
on its pixels alone, so a skin and its form are recognized as the same, and two challenges are the
same if every byte of the keyed hash that is seen as a color is the same.
-/

namespace PlayerRegistry.Challenge

open Texture (Rules Image Kind validate)

variable (key : SigningKey) (username : String)

theorem not_isLarge_picture : ¬Png.IsLarge (picture key username) :=
  Nat.not_lt.mpr (readable_picture key username).fits

theorem admits_picture {limit : UInt32} (wide : 64 ≤ limit) :
    Kind.skin.Admits limit (picture key username) where
  complete := (readable_picture key username).complete
  checked := by
    have square : ¬Kind.Overflows .skin 64 64 := fun h => h.doubled rfl rfl
    have side : 64 ≤ limit.toNat := UInt32.le_iff_toNat_le.mp wide
    exact (Texture.checkShape_eq_ok_iff square).mpr ⟨by decide, by decide, side, .inl rfl⟩
  fits := Nat.le_trans (Nat.le_mul_of_pos_right _ (by decide)) (readable_picture key username).fits

theorem skin_eq : skin key username = Texture.canonical (picture key username) := by
  rw [skin, Texture.canonical]

theorem size_skin_le : (skin key username).size ≤ 32964 := by
  have length : (Png.encode (picture key username)).length ≤ 2 * (64 * (1 + 4 * 64)) + 68 :=
    Png.length_encode_le (readable_picture key username).complete
  exact length

/-- The challenge for a name is recognized, and it is accepted as a skin that is its own form. What
is accepted as a skin is recognized just if its form is. The challenges of two names under two keys
are taken for each other just if the hashes of the names, keyed with the fingerprints, agree in all
bytes that are seen as colors. -/
theorem recognized_by_colors :
    accepts key username (skin key username) = true ∧
    (∀ rules : Rules, 64 ≤ rules.sizeLimit → (skin key username).size ≤ rules.byteLimit →
      validate .skin rules (skin key username) = .ok ⟨.skin, 64, 64, skin key username⟩) ∧
    (∀ rules file image, validate .skin rules file = .ok image →
      accepts key username file = accepts key username image.bytes) ∧
    ∀ key' other, accepts key' other (skin key username) = true ↔
      SameColors
        (Blake3.keyedHash (key.fingerprint.extract 0 32) username.toUTF8 (64 * 64 * 4))
        (Blake3.keyedHash (key'.fingerprint.extract 0 32) other.toUTF8 (64 * 64 * 4)) := by
  refine ⟨?_, ?_, ?_, ?_⟩
  · exact (accepts_iff key username _).mpr (decode?_skin key username)
  · intro rules wide short
    rw [skin_eq] at short ⊢
    have validated := (admits_picture key username wide).validate_canonical short rfl
    rw [if_neg (not_isLarge_picture key username)] at validated
    exact validated
  · intro rules file image accepted
    obtain ⟨shown, decoded, admitted, rfl⟩ := Texture.exists_picture_of_validate accepted
    have read : Png.decode? (Image.ofPicture .skin shown).bytes.data.toList =
        if Png.IsLarge shown then none else some shown := admitted.decode?_canonical
    apply Bool.eq_iff_iff.mpr
    rw [accepts_iff, accepts_iff, decoded, read]
    -- A picture that cannot be read from its form is too big for a challenge.
    by_cases large : Png.IsLarge shown
    · have other : shown ≠ picture key username := by
        rintro rfl
        exact not_isLarge_picture key username large
      rw [if_pos large]
      exact iff_of_false (fun same => other (Option.some.inj same)) nofun
    · rw [if_neg large]
  · intro key' other
    rw [accepts_iff, decode?_skin, Option.some.injEq, picture_eq_iff]

/-- A challenge that was sent with more than the picture in the file is recognized, and so is the
form that is kept of it. -/
theorem zoe_is_recognized :
    let key := Service.plain.key
    let sent := Texture.toByteArray (Png.encode (picture key "Zoë") ++ [0])
    (skin key "Zoë").size ≤ 65536 ∧ validate .skin ⟨64, 65536⟩ (skin key "Zoë") =
      .ok ⟨.skin, 64, 64, skin key "Zoë"⟩ ∧
    validate .skin ⟨64, 65536⟩ sent = .ok (.ofPicture .skin (picture key "Zoë")) ∧
    accepts key "Zoë" sent = true := by
  intro key sent
  obtain ⟨own, valid, same, -⟩ := recognized_by_colors key "Zoë"
  have admitted : Kind.skin.Admits 64 (picture key "Zoë") := admits_picture key "Zoë" (by decide)
  have length : (Png.encode (picture key "Zoë")).length ≤ 32964 := size_skin_le key "Zoë"
  have short : sent.size ≤ 65536 := by
    change (Png.encode (picture key "Zoë") ++ [0]).length ≤ 65536
    rw [List.length_append, List.length_singleton]
    omega
  have short' : (skin key "Zoë").size ≤ 65536 := Nat.le_trans length (by decide)
  have accepted : validate .skin ⟨64, 65536⟩ sent =
      .ok (.ofPicture .skin (picture key "Zoë")) := by
    rw [admitted.validate_canonical_append _ short rfl, if_neg (not_isLarge_picture key "Zoë")]
  refine ⟨short', valid _ (by decide) short', accepted, ?_⟩
  rw [same _ _ _ accepted]
  exact own

end PlayerRegistry.Challenge
