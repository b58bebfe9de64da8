import PlayerRegistry.Challenge
import PlayerRegistry.Proofs.EncodedPictures

/-!
# Challenge skins that are recognized

The skin for a name is accepted for this name. It is accepted for another one only where the keyed
hash gives both names the same colors.
-/

namespace PlayerRegistry

namespace Bytes

theorem size_pushLe32 (b : ByteArray) (w : UInt32) : (pushLe32 b w).size = b.size + 4 := by
  simp [pushLe32]

theorem size_foldl_pushLe32 (ws : Array UInt32) (b : ByteArray) :
    (ws.foldl pushLe32 b).size = b.size + 4 * ws.size := by
  obtain ⟨ws⟩ := ws
  rw [List.foldl_toArray, List.size_toArray]
  induction ws generalizing b with
  | nil => rfl
  | cons w ws ih =>
    rw [List.foldl_cons, ih, size_pushLe32, List.length_cons]
    omega

end Bytes

namespace Blake3

theorem Node.size_words (n : Node) : n.words.size = 16 := by simp [words]

/-- Each block of output has 64 bytes. -/
theorem size_foldl_words (node : Nat → Node) (ks : List Nat) (out : ByteArray) :
    (ks.foldl (fun out k => (node k).words.foldl Bytes.pushLe32 out) out).size =
      out.size + 64 * ks.length := by
  induction ks generalizing out with
  | nil => rfl
  | cons k ks ih =>
    rw [List.foldl_cons, ih, Bytes.size_foldl_pushLe32, Node.size_words, List.length_cons]
    omega

theorem Node.size_output (n : Node) (length : Nat) : (n.output length).size = length := by
  have blocks := size_foldl_words
    (fun k => { n with counter := UInt64.ofNat k, flags := n.flags ||| Flag.root })
    (List.range ((length + 63) / 64)) ByteArray.empty
  rw [List.length_range, ByteArray.size_empty] at blocks
  rw [output, ByteArray.size_extract]
  refine (congrArg (fun size => min length size - 0) blocks).trans ?_
  omega

/-- The output of a keyed hash is as long as it is asked for. -/
theorem size_keyedHash (key msg : ByteArray) (length : Nat) :
    (keyedHash key msg length).size = length := Node.size_output _ _

end Blake3

namespace Challenge

theorem length_opaquePixels : ∀ bytes : List UInt8, (opaquePixels bytes).length = bytes.length / 4
  | [] => rfl
  | [_] => by simp [opaquePixels]
  | [_, _] => by simp [opaquePixels]
  | [_, _, _] => by simp [opaquePixels]
  | _ :: _ :: _ :: _ :: rest => by
    rw [opaquePixels, List.length_cons, length_opaquePixels rest]
    simp only [List.length_cons]
    omega

/-- Of four bytes the three that are seen. -/
def seen : List UInt8 → List UInt8
  | r :: g :: b :: _ :: rest => r :: g :: b :: seen rest
  | _ => []

theorem seen_eq (bytes : List UInt8) :
    seen bytes = (opaquePixels bytes).flatMap fun p => [p.red, p.green, p.blue] := by
  fun_induction seen bytes with
  | case1 r g b a rest ih => rw [ih, opaquePixels, List.flatMap_cons]; rfl
  | case2 bytes short => rw [opaquePixels.eq_2 bytes short, List.flatMap_nil]

/-- Opaque pixels of what is seen. -/
def colored : List UInt8 → List Rgba
  | r :: g :: b :: rest => ⟨r, g, b, 0xff⟩ :: colored rest
  | _ => []

theorem colored_seen (bytes : List UInt8) : colored (seen bytes) = opaquePixels bytes := by
  fun_induction seen bytes with
  | case1 r g b a rest ih => rw [colored, ih, opaquePixels]
  | case2 bytes short => rw [opaquePixels.eq_2 bytes short]; rfl

theorem opaquePixels_eq_iff {bytes bytes' : List UInt8} :
    opaquePixels bytes = opaquePixels bytes' ↔ seen bytes = seen bytes' := by
  constructor
  · intro same
    rw [seen_eq, same, ← seen_eq]
  · intro same
    rw [← colored_seen, same, colored_seen]

/-- Of every four bytes the last one is not seen. -/
theorem seen_eq_iff {bytes bytes' : List UInt8} (lengths : bytes.length = bytes'.length)
    (whole : bytes.length % 4 = 0) :
    seen bytes = seen bytes' ↔ ∀ i, i % 4 ≠ 3 → bytes[i]? = bytes'[i]? := by
  fun_induction seen bytes generalizing bytes' with
  | case1 r g b a rest ih =>
    obtain _ | ⟨r', _ | ⟨g', _ | ⟨b', _ | ⟨a', rest'⟩⟩⟩⟩ := bytes'
    iterate 4 simp at lengths
    have others := @ih rest' (by simpa using lengths) (by simp at whole; omega)
    rw [seen]
    constructor
    · intro same
      simp only [List.cons.injEq] at same
      obtain ⟨rfl, rfl, rfl, same⟩ := same
      intro i color
      match i with
      | 0 | 1 | 2 => rfl
      | 3 => exact absurd rfl color
      | i + 4 => exact others.mp same i (by omega)
    · intro same
      have red := same 0 (by decide)
      have green := same 1 (by decide)
      have blue := same 2 (by decide)
      have left := others.mpr fun i color => same (i + 4) (by omega)
      cases red
      cases green
      cases blue
      rw [left]
  | case2 bytes short =>
    have none : bytes = [] := by
      obtain _ | ⟨r, _ | ⟨g, _ | ⟨b, _ | ⟨a, rest⟩⟩⟩⟩ := bytes
      · rfl
      iterate 3 simp at whole
      exact absurd rfl (short r g b a rest)
    obtain rfl : bytes' = [] := by
      rw [none] at lengths
      exact List.eq_nil_of_length_eq_zero lengths.symm
    rw [none]
    simp [seen]

variable (key : SigningKey) (username : String)

theorem length_stream : (stream key username).data.toList.length = size * size * 4 := by
  rw [Array.length_toList, ByteArray.size_data, stream, Blake3.size_keyedHash]

theorem readable_picture : Png.Readable (picture key username) where
  complete := by
    rw [Picture.Complete, picture]
    dsimp only
    rw [length_opaquePixels, length_stream]
    simp [size]
  wide := by simp [picture, size]
  high := by simp [picture, size]
  fits := by
    have width : (picture key username).width.toNat = 64 := by simp [picture, size]
    have height : (picture key username).height.toNat = 64 := by simp [picture, size]
    rw [width, height, Png.memoryLimit]
    omega

theorem decode?_skin :
    Png.decode? (skin key username).data.toList = some (picture key username) :=
  Png.decode?_encode (readable_picture key username)

theorem accepts_iff (file : ByteArray) : accepts key username file = true ↔
    Png.decode? file.data.toList = some (picture key username) := decide_eq_true_iff

/-- The bytes agree wherever they are seen as colors: of every four the last one is not seen. -/
def SameColors (bytes bytes' : ByteArray) : Prop :=
  ∀ i < 64 * 64 * 4, i % 4 ≠ 3 → bytes.data[i]? = bytes'.data[i]?

theorem picture_eq_iff (key' : SigningKey) (other : String) :
    picture key username = picture key' other ↔ SameColors
      (Blake3.keyedHash (key.fingerprint.extract 0 32) username.toUTF8 (64 * 64 * 4))
      (Blake3.keyedHash (key'.fingerprint.extract 0 32) other.toUTF8 (64 * 64 * 4)) := by
  have length := length_stream key username
  have length' := length_stream key' other
  have colors : picture key username = picture key' other ↔
      seen (stream key username).data.toList = seen (stream key' other).data.toList := by
    rw [← opaquePixels_eq_iff, picture, picture, Picture.mk.injEq]
    simp only [true_and]
  rw [colors, seen_eq_iff (length.trans length'.symm) (by rw [length]; rfl)]
  simp only [Array.getElem?_toList]
  change (∀ i, i % 4 ≠ 3 → (stream key username).data[i]? = (stream key' other).data[i]?) ↔
    ∀ i < size * size * 4, i % 4 ≠ 3 →
      (stream key username).data[i]? = (stream key' other).data[i]?
  constructor
  · exact fun same i _ => same i
  · intro same i color
    by_cases inside : i < size * size * 4
    · exact same i inside color
    · rw [Array.getElem?_eq_none (by rw [← Array.length_toList, length]; omega),
        Array.getElem?_eq_none (by rw [← Array.length_toList, length']; omega)]

/-- The hash, keyed with the fingerprint of the key, gives the same colors to two names. -/
def Collide (key : SigningKey) (name name' : String) : Prop :=
  name ≠ name' ∧ SameColors
    (Blake3.keyedHash (key.fingerprint.extract 0 32) name.toUTF8 (64 * 64 * 4))
    (Blake3.keyedHash (key.fingerprint.extract 0 32) name'.toUTF8 (64 * 64 * 4))

/-- The skin for a name shows this name, and no other unless the hash collides. -/
theorem accepts_skin_iff (other : String) : accepts key other (skin key username) = true ↔
    other = username ∨ Collide key other username := by
  rw [accepts_iff, decode?_skin, Option.some.injEq, eq_comm, Collide]
  by_cases same : other = username
  · simp [same]
  · rw [picture_eq_iff]
    simp only [same, false_or, ne_eq, not_false_eq_true, true_and]

end Challenge

end PlayerRegistry
