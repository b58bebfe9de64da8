import PlayerRegistry.Proofs.CanonicalImages
import PlayerRegistry.Proofs.EncodedPictures

/-!
# Canonical forms

The canonical file of a picture belongs to this picture alone, however big it is. So what is
accepted is kept as its picture: the form is the same for all files that show the same, and it is a
form of itself. Only of a picture that takes more memory than there is with four channels, and took
less with fewer, the form cannot be read.
-/

namespace PlayerRegistry

namespace Png

theorem be32_injective {v w : UInt32} (same : Deflate.be32 v = Deflate.be32 w) : v = w := by
  have read := word?_be32 v []
  rw [same, word?_be32] at read
  exact (Prod.mk.inj (Option.some.inj read)).1.symm

namespace Chunk

theorem length_write (c : Chunk) : c.write.length = 12 + c.data.length := by
  simp [write, Deflate.be32]
  omega

theorem write_injective {c d : Chunk} (same : c.write = d.write) : c = d := by
  have lengths : c.data.length = d.data.length := by
    have total := congrArg List.length same
    rw [length_write, length_write] at total
    omega
  rw [write, write] at same
  obtain ⟨front, -⟩ := List.append_inj' same (by simp [Deflate.be32])
  obtain ⟨head, data⟩ := List.append_inj' front lengths
  obtain ⟨-, code⟩ := List.append_inj' head (by simp [Deflate.be32])
  obtain ⟨⟨code'⟩, bytes⟩ := c
  obtain ⟨⟨_⟩, _⟩ := d
  cases be32_injective code
  cases data
  rfl

end Chunk

theorem Header.size_of_toData {h h' : Header} (same : h.toData = h'.toData) :
    h.width = h'.width ∧ h.height = h'.height := by
  rw [toData, toData, List.append_assoc, List.append_assoc] at same
  obtain ⟨width, rest⟩ := List.append_inj same (by simp [Deflate.be32])
  obtain ⟨height, -⟩ := List.append_inj rest (by simp [Deflate.be32])
  exact ⟨be32_injective width, be32_injective height⟩

theorem bytes_injective {row row' : List Rgba} (lengths : row.length = row'.length)
    (same : row.flatMap Rgba.bytes = row'.flatMap Rgba.bytes) : row = row' := by
  have read := pixels_bytes (p := ⟨⟨0, 0, 8, .rgba, false⟩, none, none⟩) rfl rfl [] row
  rw [same, lengths, pixels_bytes rfl rfl] at read
  exact read.symm

theorem rawRows_injective {width height : Nat} {pixels pixels' : List Rgba}
    (whole : pixels.length = width * height) (whole' : pixels'.length = width * height)
    (same : rawRows width height pixels = rawRows width height pixels') : pixels = pixels' := by
  induction height generalizing pixels pixels' with
  | zero =>
    rw [List.eq_nil_of_length_eq_zero whole, List.eq_nil_of_length_eq_zero whole']
  | succ height ih =>
    rw [Nat.mul_succ] at whole whole'
    have lengths : (pixels.take width).length = (pixels'.take width).length := by
      rw [List.length_take, List.length_take, whole, whole']
    rw [rawRows, rawRows] at same
    obtain ⟨row, rest⟩ := List.append_inj (List.cons.inj same).2
      (by rw [length_bytes, length_bytes, lengths])
    have others := ih (by rw [List.length_drop]; omega) (by rw [List.length_drop]; omega) rest
    rw [← List.take_append_drop width pixels, bytes_injective lengths row, others,
      List.take_append_drop]

theorem store_injective {bytes bytes' : List UInt8} (lengths : bytes.length = bytes'.length)
    (same : Deflate.store bytes = Deflate.store bytes') : bytes = bytes' := by
  by_cases none : bytes = []
  · rw [none] at lengths ⊢
    exact (List.eq_nil_of_length_eq_zero lengths.symm).symm
  · have none' : bytes' ≠ [] := by
      rintro rfl
      exact none (List.eq_nil_of_length_eq_zero lengths)
    have read := Deflate.inflate?_store none
    rw [same, lengths, Deflate.inflate?_store none'] at read
    exact (List.toArray_inj (Option.some.inj read)).symm

/-- Two pictures never have the same file, not even if they are too big to be read. -/
theorem encode_injective {p q : Picture} (complete : p.Complete) (complete' : q.Complete)
    (same : encode p = encode q) : p = q := by
  rw [encode, encode, List.append_assoc, List.append_assoc, List.append_assoc, List.append_assoc]
    at same
  have chunks := List.append_cancel_left same
  obtain ⟨first, rest⟩ := List.append_inj chunks (by simp [Chunk.length_write, Header.toData,
    Deflate.be32])
  have second := List.append_cancel_right rest
  obtain ⟨width, height⟩ := Header.size_of_toData (Chunk.mk.inj (Chunk.write_injective first)).2
  have stored := (Chunk.mk.inj (Chunk.write_injective second)).2
  obtain ⟨w, h, pixels⟩ := p
  obtain ⟨w', h', pixels'⟩ := q
  cases width
  cases height
  rw [Picture.Complete] at complete complete'
  have raws := store_injective (by rw [length_rawRows complete, length_rawRows complete']) stored
  exact congrArg (Picture.mk w h) (rawRows_injective complete complete' raws)

theorem length_storedFile_le (h : Header) (raw : List UInt8) :
    (storedFile h raw).length ≤ 2 * raw.length + 68 := by
  have stored := Deflate.length_store raw
  have header : h.toData.length = 13 := by simp [Header.toData, Deflate.be32]
  simp only [storedFile, List.length_append, Chunk.length_write, signature, List.length_cons,
    List.length_nil, header]
  omega

theorem length_encode_le {p : Picture} (complete : p.Complete) :
    (encode p).length ≤ 2 * (p.height.toNat * (1 + 4 * p.width.toNat)) + 68 := by
  have rows : (raw p).length = p.height.toNat * (1 + 4 * p.width.toNat) := length_rawRows complete
  rw [encode_eq, ← rows]
  exact length_storedFile_le (canonicalHeader p) (raw p)

/-- Reading the picture with four channels of eight bits takes more memory than there is. -/
def IsLarge (p : Picture) : Prop := memoryLimit < p.width.toNat * p.height.toNat * 4

instance (p : Picture) : Decidable (IsLarge p) := inferInstanceAs (Decidable (_ < _))

theorem signature_of_dimensions? {file : List UInt8} {size : UInt32 × UInt32}
    (h : dimensions? file = some size) : file.take 8 = signature := by
  obtain ⟨_, begun, -⟩ := Option.map_eq_some_iff.mp h
  rw [preamble?, Option.bind_eq_bind, Option.bind_eq_bind, Option.bind_none,
    Option.ite_none_left_eq_some, Decidable.not_not] at begun
  exact begun.1

/-- A gray picture with a bit to a pixel, none of which is set. -/
def blackHeader (width height : UInt32) : Header := ⟨width, height, 1, .gray, false⟩

def blackRows (width height : UInt32) : List (List UInt8) :=
  List.replicate height.toNat (List.replicate ((width.toNat + 7) / 8) 0)

def blackFile (width height : UInt32) : List UInt8 :=
  storedFile (blackHeader width height) (storedRows (blackRows width height))

def black (width height : UInt32) : Picture :=
  ⟨width, height, List.replicate (width.toNat * height.toNat) ⟨0, 0, 0, 255⟩⟩

theorem samples_zeros (n : Nat) : samples 1 (List.replicate n 0) = List.replicate (8 * n) 0 := by
  have byte : samplesOfByte 1 0 = List.replicate 8 0 := by decide
  rw [samples, if_neg (by decide), if_neg (by decide)]
  induction n with
  | zero => rfl
  | succ n ih =>
    rw [List.replicate_succ, List.flatMap_cons, byte, ih, List.replicate_append_replicate]
    exact congrArg (List.replicate · 0) (by omega)

theorem pixels_zeros {h : Header} (gray : h.color = .gray) (shallow : h.depth = 1) {count n : Nat}
    (enough : count ≤ n) : pixels ⟨h, none, none⟩ [] count (List.replicate n 0) =
      List.replicate count ⟨0, 0, 0, 255⟩ := by
  have dark : channel 1 0 = 0 := by decide
  induction count generalizing n with
  | zero => rfl
  | succ count ih =>
    obtain ⟨n, rfl⟩ : ∃ m, n = m + 1 := ⟨n - 1, by omega⟩
    rw [List.replicate_succ, pixels.eq_def]
    simp only [gray, shallow, dark, opacity]
    rw [ih (by omega), List.replicate_succ]

section
variable {width height : UInt32}

theorem rowBytes_black (n : Nat) : (blackHeader width height).rowBytes n = (n + 7) / 8 := by
  have bits : (blackHeader width height).bitsPerPixel = 1 := rfl
  rw [Header.rowBytes, bits, Nat.mul_one]

theorem expandedPixel_black :
    (Preamble.mk (blackHeader width height) none none).expandedPixel = 1 := rfl

theorem length_storedRows_black : (storedRows (blackRows width height)).length =
    height.toNat * (1 + (width.toNat + 7) / 8) := by
  simp [storedRows, blackRows, List.length_flatMap, Nat.add_comm]

theorem stores_black (wide : width.toNat ≠ 0) (high : height.toNat ≠ 0)
    (fits : width.toNat * height.toNat ≤ memoryLimit) :
    Stores (blackHeader width height) (storedRows (blackRows width height)) := by
  have wide' : width ≠ 0 := fun zero => wide (congrArg UInt32.toNat zero)
  have high' : height ≠ 0 := fun zero => high (congrArg UInt32.toNat zero)
  have size : height.toNat * (1 + (width.toNat + 7) / 8) ≤ 2 * memoryLimit :=
    calc height.toNat * (1 + (width.toNat + 7) / 8)
      _ ≤ height.toNat * (2 * width.toNat) := Nat.mul_le_mul_left _ (by omega)
      _ = 2 * (width.toNat * height.toNat) := by
        rw [Nat.mul_left_comm, Nat.mul_comm width.toNat]
      _ ≤ 2 * memoryLimit := Nat.mul_le_mul_left 2 fits
  exact {
    valid := Header.ofData?_toData wide' high' (by simp [blackHeader, ColorType.depths])
    plain := nofun
    single := rfl
    filled := by
      rw [← List.length_pos_iff, length_storedRows_black]
      exact Nat.mul_pos (Nat.pos_of_ne_zero high) (by omega)
    whole := by
      rw [length_storedRows_black, rawSize_single rfl wide, rowBytes_black]
      rfl
    short := by
      have stored := Deflate.length_store (storedRows (blackRows width height))
      rw [length_storedRows_black] at stored
      rw [memoryLimit] at size
      rw [UInt32.size]
      omega
    row := by
      rw [expandedPixel_black, Nat.mul_one]
      exact Nat.le_trans (Nat.le_mul_of_pos_right _ (Nat.pos_of_ne_zero high)) fits
    fits := by
      rw [expandedPixel_black, Nat.mul_one]
      exact fits }

/-- One channel of a pixel has to fit into the memory, not the four that it has in the end. -/
theorem decode?_blackFile (wide : width.toNat ≠ 0) (high : height.toNat ≠ 0)
    (fits : width.toNat * height.toNat ≤ memoryLimit) :
    decode? (blackFile width height) = some (black width height) := by
  have read := (stores_black wide high fits).decode?_append []
  have lengths : ∀ row ∈ blackRows width height,
      row.length = (blackHeader width height).rowBytes width.toNat := by
    intro row hrow
    rw [List.eq_of_mem_replicate hrow, List.length_replicate, rowBytes_black]
  have rows : passRows? ⟨blackHeader width height, none, none⟩ []
      (storedRows (blackRows width height)).toArray 0 .whole =
        some (List.replicate height.toNat (List.replicate width.toNat ⟨0, 0, 0, 255⟩)) := by
    have count : (blackRows width height).length = (blackHeader width height).height.toNat :=
      List.length_replicate
    rw [passRows?_storedRows wide count lengths, blackRows, List.map_replicate]
    change some (List.replicate _ (pixels _ [] width.toNat (samples 1 _))) = _
    rw [samples_zeros, pixels_zeros rfl rfl (by omega)]
  rw [List.append_nil, rows, Option.map_some, List.flatten_replicate_replicate,
    Nat.mul_comm] at read
  exact read

end

end Png

namespace Texture

variable {kind : Kind} {rules : Rules} {file : ByteArray} {image : Image} {picture : Picture}

/-- Where the length and the header are in order, the pixels decide. -/
theorem examine_of_dimensions? (short : file.size ≤ rules.byteLimit) {width height : UInt32}
    (begun : Png.dimensions? file.data.toList = some (width, height))
    (checked : checkShape kind rules.sizeLimit width height = .ok ()) :
    examine kind rules file = (Png.decode? file.data.toList).elim (.error .undecodable)
      fun picture => .ok ⟨kind, width, height, canonical picture⟩ := by
  have signed := Png.signature_of_dimensions? begun
  have filled : file.size ≠ 0 := by
    intro empty
    have none : file.data.toList = [] := List.eq_nil_of_length_eq_zero empty
    rw [none] at signed
    cases signed
  rw [examine, if_neg filled, if_neg (Nat.not_lt.mpr short)]
  simp only [signed, ne_eq, not_true, if_false, begun, checked]
  cases Png.decode? file.data.toList <;> rfl

namespace Kind.Admits

variable {limit : UInt32} (h : kind.Admits limit picture)
include h

theorem wide : picture.width ≠ 0 := fun zero => h.shaped.pos.ne' (congrArg UInt32.toNat zero)

/-- The height is at least half of the width. -/
theorem width_le : picture.width.toNat ≤ 2 * picture.height.toNat := by
  have proportioned := h.shaped.proportioned
  cases kind with
  | skin =>
    rcases proportioned with same | twice
    · omega
    · omega
  | cape => exact Nat.le_of_eq proportioned

theorem height_le : picture.height.toNat ≤ picture.width.toNat := by
  have proportioned := h.shaped.proportioned
  cases kind with
  | skin =>
    rcases proportioned with same | twice
    · omega
    · omega
  | cape =>
    have twice : picture.width.toNat = 2 * picture.height.toNat := proportioned
    omega

/-- The width is 64 at least, so there are four rows or more. -/
theorem four_le_height : 4 ≤ picture.height.toNat := by
  have least := Nat.le_of_dvd h.shaped.pos h.shaped.multiple
  have := h.width_le
  omega

theorem high : picture.height ≠ 0 := by
  intro zero
  have four := h.four_le_height
  rw [zero] at four
  cases four

theorem row_fits : picture.width.toNat * 4 ≤ Png.memoryLimit :=
  Nat.le_trans (Nat.mul_le_mul_left _ h.four_le_height) h.fits

/-- A limit of size can be so low that no picture is too big to be read from its own file. -/
theorem not_isLarge (low : limit.toNat ≤ 11585) : ¬Png.IsLarge picture := by
  have width : picture.width.toNat ≤ 11585 := Nat.le_trans h.shaped.small low
  have pixels := Nat.mul_le_mul width (Nat.le_trans h.height_le width)
  rw [Png.IsLarge, Png.memoryLimit]
  omega

theorem decode?_canonical_append (extra : List UInt8) :
    Png.decode? (Png.encode picture ++ extra) =
      if Png.IsLarge picture then none else some picture := by
  by_cases large : Png.IsLarge picture
  · rw [if_pos large]
    exact Png.decode?_encode_of_large h.wide h.high h.row_fits large extra
  · rw [if_neg large]
    exact Png.decode?_encode_append ⟨h.complete, h.wide, h.high, Nat.not_lt.mp large⟩ extra

/-- Bytes after the end of a canonical file change nothing. -/
theorem examine_canonical_append (extra : List UInt8)
    (short : (toByteArray (Png.encode picture ++ extra)).size ≤ rules.byteLimit)
    (same : rules.sizeLimit = limit) :
    examine kind rules (toByteArray (Png.encode picture ++ extra)) =
      if Png.IsLarge picture then .error .undecodable else .ok (.ofPicture kind picture) := by
  have begun := Png.dimensions?_encode h.wide h.high h.row_fits extra
  have checked := h.checked
  rw [← same] at checked
  rw [examine_of_dimensions? short begun checked]
  change (Png.decode? (Png.encode picture ++ extra)).elim _ _ = _
  rw [h.decode?_canonical_append]
  by_cases large : Png.IsLarge picture
  · rw [if_pos large, if_pos large, Option.elim_none]
  · rw [if_neg large, if_neg large, Option.elim_some]
    rfl

theorem decode?_canonical : Png.decode? (canonical picture).data.toList =
    if Png.IsLarge picture then none else some picture := by
  have read := h.decode?_canonical_append []
  rwa [List.append_nil] at read

theorem validate_canonical_append (extra : List UInt8)
    (short : (toByteArray (Png.encode picture ++ extra)).size ≤ rules.byteLimit)
    (same : rules.sizeLimit = limit) :
    validate kind rules (toByteArray (Png.encode picture ++ extra)) =
      if Png.IsLarge picture then .error (Fault.undecodable.error kind)
      else .ok (.ofPicture kind picture) := by
  rw [validate, h.examine_canonical_append extra short same]
  by_cases large : Png.IsLarge picture
  · rw [if_pos large, if_pos large]
    rfl
  · rw [if_neg large, if_neg large]
    rfl

/-- The form is judged like any other file. -/
theorem validate_canonical (short : (canonical picture).size ≤ rules.byteLimit)
    (same : rules.sizeLimit = limit) :
    validate kind rules (canonical picture) =
      if Png.IsLarge picture then .error (Fault.undecodable.error kind)
      else .ok (.ofPicture kind picture) := by
  have whole : canonical picture = toByteArray (Png.encode picture ++ []) := by
    rw [List.append_nil, canonical]
  rw [whole] at short ⊢
  exact h.validate_canonical_append [] short same

end Kind.Admits

theorem exists_picture_of_validate (accepted : validate kind rules file = .ok image) :
    ∃ picture, Png.decode? file.data.toList = some picture ∧
      kind.Admits rules.sizeLimit picture ∧ image = .ofPicture kind picture :=
  exists_picture_of_examine (validate_eq_ok_iff.mp accepted)

/-- What has been accepted is kept as its picture, in a size that is legal for the kind. Its form is
read as this picture and accepted as itself, unless it is too big to be read with four channels,
which no low limit of size allows. The form is the same for two files just if they show the same. -/
theorem canonical_by_picture :
    (∀ kind rules file image, validate kind rules file = .ok image →
      ∃ picture, Png.decode? file.data.toList = some picture ∧
        image.kind = kind ∧ image.width = picture.width ∧ image.height = picture.height ∧
        kind.Shaped rules.sizeLimit.toNat image.width.toNat image.height.toNat ∧
        Png.decode? image.bytes.data.toList =
          (if Png.IsLarge picture then none else some picture) ∧
        (image.bytes.size ≤ rules.byteLimit → validate kind rules image.bytes =
          if Png.IsLarge picture then .error (Fault.undecodable.error kind) else .ok image) ∧
        (rules.sizeLimit.toNat ≤ 11585 → ¬Png.IsLarge picture)) ∧
    ∀ kind rules file image kind' rules' file' image',
      validate kind rules file = .ok image → validate kind' rules' file' = .ok image' →
      (image.bytes = image'.bytes ↔
        Png.decode? file.data.toList = Png.decode? file'.data.toList) := by
  constructor
  · intro kind rules file image accepted
    obtain ⟨picture, decoded, admitted, rfl⟩ := exists_picture_of_validate accepted
    exact ⟨picture, decoded, rfl, rfl, rfl, admitted.shaped, admitted.decode?_canonical,
      fun short => admitted.validate_canonical short rfl, admitted.not_isLarge⟩
  · intro kind rules file image kind' rules' file' image' accepted accepted'
    obtain ⟨picture, decoded, admitted, rfl⟩ := exists_picture_of_validate accepted
    obtain ⟨picture', decoded', admitted', rfl⟩ := exists_picture_of_validate accepted'
    rw [decoded, decoded', Option.some.injEq]
    constructor
    · intro same
      exact Png.encode_injective admitted.complete admitted'.complete
        (congrArg (fun bytes => bytes.data.toList) same)
    · rintro rfl
      rfl

/-- A skin on which nothing is drawn. -/
def blankSkin : Picture := ⟨64, 64, List.replicate 4096 ⟨0, 0, 0, 0⟩⟩

theorem admits_blankSkin {limit : UInt32} (wide : 64 ≤ limit) :
    Kind.skin.Admits limit blankSkin where
  complete := List.length_replicate
  checked := by
    have small : ¬Kind.Overflows .skin 64 64 := fun h => absurd h.tall (by decide)
    exact (checkShape_eq_ok_iff small).mpr ⟨by decide, by decide, wide, .inl rfl⟩
  fits := by
    change 64 * 64 ≤ Png.memoryLimit
    rw [Png.memoryLimit]
    omega

theorem size_canonical_blankSkin : (canonical blankSkin).size ≤ 32964 :=
  Png.length_encode_le (p := blankSkin) List.length_replicate

theorem not_isLarge_blankSkin : ¬Png.IsLarge blankSkin :=
  (admits_blankSkin (UInt32.le_refl 64)).not_isLarge (by decide)

theorem validate_blankSkin {rules : Rules} (wide : 64 ≤ rules.sizeLimit)
    (long : 32964 ≤ rules.byteLimit) :
    validate .skin rules (canonical blankSkin) = .ok (.ofPicture .skin blankSkin) := by
  have short := Nat.le_trans size_canonical_blankSkin long
  rw [(admits_blankSkin wide).validate_canonical short rfl, if_neg not_isLarge_blankSkin]

/-- A file with more than the picture in it is not the form, and is kept as the form. -/
theorem blankSkin_has_form :
    validate .skin ⟨64, 65536⟩ (toByteArray (Png.encode blankSkin ++ [0])) =
      .ok (.ofPicture .skin blankSkin) ∧
    Png.decode? (canonical blankSkin).data.toList = some blankSkin ∧
    validate .skin ⟨64, 65536⟩ (canonical blankSkin) = .ok (.ofPicture .skin blankSkin) ∧
    toByteArray (Png.encode blankSkin ++ [0]) ≠ canonical blankSkin := by
  have length : (Png.encode blankSkin).length ≤ 32964 := size_canonical_blankSkin
  have small := not_isLarge_blankSkin
  have admitted : Kind.skin.Admits 64 blankSkin := admits_blankSkin (UInt32.le_refl 64)
  have short : (toByteArray (Png.encode blankSkin ++ [0])).size ≤ 65536 := by
    change (Png.encode blankSkin ++ [0]).length ≤ 65536
    rw [List.length_append, List.length_singleton]
    omega
  have accepted : validate .skin ⟨64, 65536⟩ (toByteArray (Png.encode blankSkin ++ [0])) =
      .ok (.ofPicture .skin blankSkin) := by
    rw [admitted.validate_canonical_append _ short rfl, if_neg small]
  obtain ⟨picture, decoded, -, -, -, -, read, again, -⟩ := canonical_by_picture.1 _ _ _ _ accepted
  have shown : Png.decode? (Png.encode blankSkin ++ [0]) = some blankSkin := by
    rw [admitted.decode?_canonical_append, if_neg small]
  obtain rfl : picture = blankSkin := Option.some.inj (decoded.symm.trans shown)
  rw [if_neg small] at read again
  refine ⟨accepted, read, again ?_, ?_⟩
  · change (Png.encode blankSkin).length ≤ 65536
    omega
  · intro same
    have lengths := congrArg ByteArray.size same
    change (Png.encode blankSkin ++ [0]).length = (Png.encode blankSkin).length at lengths
    simp at lengths

/-- A black skin of 16448 by 8224 pixels is accepted from a file with a bit to a pixel, but its
form, which has four bytes to a pixel, is refused under the same rules, though it is not too long.
-/
theorem form_of_black_skin_is_refused :
    let rules : Rules := ⟨16448, 2147483648⟩
    ∃ image, validate .skin rules (toByteArray (Png.blackFile 16448 8224)) = .ok image ∧
      image.bytes.size ≤ rules.byteLimit ∧
      validate .skin rules image.bytes =
        .error (.validation "skin" "could not decode image") := by
  intro rules
  have wide : (16448 : UInt32).toNat = 16448 := rfl
  have high : (8224 : UInt32).toNat = 8224 := rfl
  have fits : (16448 : UInt32).toNat * (8224 : UInt32).toNat ≤ Png.memoryLimit := by
    rw [wide, high, Png.memoryLimit]
    omega
  have admitted : Kind.skin.Admits 16448 (Png.black 16448 8224) := by
    refine ⟨List.length_replicate, ?_, fits⟩
    have small : ¬Kind.Overflows .skin 16448 8224 := fun h => absurd h.tall (by decide)
    exact (checkShape_eq_ok_iff small).mpr ⟨by decide, by decide, by decide, .inr (by decide)⟩
  have large : Png.IsLarge (Png.black 16448 8224) := by
    change Png.memoryLimit < (16448 : UInt32).toNat * (8224 : UInt32).toNat * 4
    rw [wide, high, Png.memoryLimit]
    omega
  have file : (toByteArray (Png.blackFile 16448 8224)).size ≤ rules.byteLimit := by
    have length := Png.length_storedFile_le (Png.blackHeader 16448 8224)
      (Png.storedRows (Png.blackRows 16448 8224))
    rw [Png.length_storedRows_black, wide, high] at length
    change (Png.blackFile 16448 8224).length ≤ 2147483648
    exact Nat.le_trans length (by decide)
  have decoded : Png.decode? (Png.blackFile 16448 8224) = some (Png.black 16448 8224) :=
    Png.decode?_blackFile (by decide) (by decide) fits
  obtain ⟨-, begun, -⟩ := Png.decode?_complete decoded
  have form : (canonical (Png.black 16448 8224)).size ≤ rules.byteLimit := by
    have length := Png.length_encode_le admitted.complete
    change (Png.encode (Png.black 16448 8224)).length ≤ 2147483648
    change _ ≤ 2 * ((8224 : UInt32).toNat * (1 + 4 * (16448 : UInt32).toNat)) + 68 at length
    rw [wide, high] at length
    omega
  refine ⟨.ofPicture .skin (Png.black 16448 8224), ?_, form, ?_⟩
  · refine validate_eq_ok_iff.mpr ?_
    rw [examine_of_dimensions? file begun admitted.checked]
    change (Png.decode? (Png.blackFile 16448 8224)).elim _ _ = _
    rw [decoded, Option.elim_some]
    rfl
  · exact (admitted.validate_canonical form rfl).trans (if_pos large)

end Texture

end PlayerRegistry
