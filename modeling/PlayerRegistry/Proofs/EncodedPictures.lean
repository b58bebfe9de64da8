import PlayerRegistry.Png.Encode
import PlayerRegistry.Proofs.DecodedPictures
import PlayerRegistry.Proofs.StoredStreams

/-!
# Pictures that are read back

The file that is written for a picture is read as that picture, if it is complete, has pixels at
all, and fits into the memory. If it does not fit, only its size can be read from the file.
-/

namespace PlayerRegistry.Png

theorem ofBe32_bytes (w : UInt32) :
    ofBe32 (w >>> 24).toUInt8 (w >>> 16).toUInt8 (w >>> 8).toUInt8 w.toUInt8 = w := by
  apply UInt32.eq_of_toBitVec_eq
  apply BitVec.eq_of_getLsbD_eq
  intro i hi
  simp only [ofBe32, UInt32.toBitVec_or, UInt32.toBitVec_shiftLeft, UInt8.toBitVec_toUInt32,
    UInt32.toBitVec_toUInt8, UInt32.toBitVec_shiftRight, UInt32.toBitVec_ofNat,
    BitVec.ofNat_eq_ofNat, BitVec.reduceMod, BitVec.ushiftRight_eq', BitVec.toNat_ofNat,
    Nat.reducePow, Nat.reduceMod, BitVec.shiftLeft_eq', BitVec.getLsbD_or,
    BitVec.getLsbD_shiftLeft, BitVec.getLsbD_setWidth, BitVec.getLsbD_ushiftRight]
  grind

theorem word?_be32 (w : UInt32) (rest : List UInt8) :
    word? (Deflate.be32 w ++ rest) = some (w, rest) :=
  congrArg (fun w => some (w, rest)) (ofBe32_bytes w)

namespace Chunk

/-- What stands after the length and the kind of a chunk. -/
def tail (c : Chunk) : List UInt8 := c.data ++ Deflate.be32 c.checksum

/-- The length that is announced: the one of the data, if a word can hold it. -/
def announced (c : Chunk) : Nat := (UInt32.ofNat c.data.length).toNat

theorem announced_of_short {c : Chunk} (short : c.data.length < UInt32.size) :
    c.announced = c.data.length := UInt32.toNat_ofNat_of_lt' short

theorem head?_write (c : Chunk) (rest : List UInt8) :
    head? (c.write ++ rest) = some ((c.announced, c.kind), c.tail ++ rest) := by
  rw [write, List.append_assoc, List.append_assoc, List.append_assoc, head?, word?_be32]
  simp only [Option.bind_eq_bind, Option.bind_some, word?_be32]
  rw [tail, List.append_assoc]
  rfl

theorem body?_tail (c : Chunk) (rest : List UInt8) :
    body? c.data.length c.kind (c.tail ++ rest) = some ((c, true), rest) := by
  rw [tail, List.append_assoc, body?, List.take_left, List.drop_left, word?_be32]
  simp

end Chunk

theorem Header.ofData?_toData {h : Header} (wide : h.width ≠ 0) (high : h.height ≠ 0)
    (depth : h.depth ∈ h.color.depths) : ofData? h.toData = some h := by
  obtain ⟨width, height, bits, color, interlaced⟩ := h
  dsimp only at wide high depth
  have small : bits ≤ 16 := by
    cases color <;> simp [ColorType.depths] at depth <;> omega
  have bits' : (UInt8.ofNat bits).toNat = bits := by
    simp only [UInt8.toNat_ofNat']
    omega
  rw [toData, List.append_assoc, ofData?, word?_be32]
  simp only [Option.bind_eq_bind, Option.bind_some, word?_be32]
  cases color <;> cases interlaced <;> simp [ColorType.ofCode?, bits', wide, high, depth]

namespace Preamble

/-- Reading begins with the header. -/
theorem read?_header {h : Header} (valid : Header.ofData? h.toData = some h) (fuel : Nat)
    (rest : List UInt8) : read? (fuel + 1) none ((Chunk.mk .header h.toData).write ++ rest) =
      read? fuel (some ⟨h, none, none⟩) rest := by
  have short : (Chunk.mk .header h.toData).data.length < UInt32.size := by
    simp [Header.toData, Deflate.be32, UInt32.size]
  have body := Chunk.body?_tail (Chunk.mk .header h.toData) rest
  have pixels : ChunkKind.header ≠ .data := by decide
  have frame : ChunkKind.header ≠ .frameData := by decide
  rw [read?, Chunk.head?_write, Chunk.announced_of_short short]
  dsimp only at body
  simp only [Option.bind_eq_bind, Option.bind_some, pixels, frame, if_false, body, if_true,
    addChunk?, valid, Option.map_some]

/-- Reading ends at the pixels. -/
theorem read?_data {c : Chunk} (kind : c.kind = .data) (fuel : Nat) (p : Preamble)
    (rest : List UInt8) :
    read? (fuel + 1) (some p) (c.write ++ rest) = some ((p, c.announced), c.tail ++ rest) := by
  rw [read?, Chunk.head?_write]
  simp [kind]

end Preamble

theorem preamble?_written {h : Header} (valid : Header.ofData? h.toData = some h)
    (fits : h.width.toNat * (Preamble.mk h none none).expandedPixel ≤ memoryLimit) {c : Chunk}
    (kind : c.kind = .data) (rest : List UInt8) :
    preamble? (signature ++ ((Chunk.mk .header h.toData).write ++ (c.write ++ rest))) =
      some ((⟨h, none, none⟩, c.announced), c.tail ++ rest) := by
  obtain ⟨fuel, enough⟩ : ∃ fuel,
      (signature ++ ((Chunk.mk .header h.toData).write ++ (c.write ++ rest))).length = fuel + 2 :=
    ⟨_, by rw [signature, List.length_append]; exact Nat.add_comm 8 _⟩
  have begins : (signature ++ ((Chunk.mk .header h.toData).write ++ (c.write ++ rest))).take 8 =
      signature := List.take_left' rfl
  have goesOn : (signature ++ ((Chunk.mk .header h.toData).write ++ (c.write ++ rest))).drop 8 =
      (Chunk.mk .header h.toData).write ++ (c.write ++ rest) := List.drop_left' rfl
  rw [preamble?, enough, begins, goesOn, Preamble.read?_header valid,
    Preamble.read?_data kind]
  simp only [ne_eq, not_true, if_false, Option.bind_eq_bind, Option.bind_some,
    if_neg (Nat.not_lt.mpr fits)]
  rfl

/-- The pixels are in one chunk, if the next one is of another kind. -/
theorem pixelData?_one {c next : Chunk} (kind : c.kind = .data) (other : next.kind ≠ .data)
    (fuel : Nat) (rest : List UInt8) :
    pixelData? (fuel + 1) c.data.length (c.tail ++ (next.write ++ rest)) = some c.data := by
  rw [pixelData?, ← kind, Chunk.body?_tail]
  simp only [Option.bind_eq_bind, Option.bind_some, Chunk.head?_write]
  simp [kind, other]

theorem channel_eight (b : UInt8) : channel 8 b.toNat = b := by
  have whole : b.toNat * 255 / (1 <<< 8 - 1) = b.toNat := by
    rw [show 1 <<< 8 - 1 = 255 from rfl]
    omega
  rw [channel, if_neg (by decide), whole, UInt8.ofNat_toNat]

theorem pixels_bytes {p : Preamble} (depth : p.header.depth = 8) (color : p.header.color = .rgba)
    (palette : List UInt8) (row : List Rgba) :
    pixels p palette row.length (samples 8 (row.flatMap Rgba.bytes)) = row := by
  rw [samples, if_pos rfl]
  induction row with
  | nil => rfl
  | cons pixel row ih =>
    rw [List.length_cons, List.flatMap_cons, Rgba.bytes, pixels.eq_def]
    simp only [color, depth, List.cons_append, List.nil_append, List.map_cons, channel_eight, ih]

/-- The pixels in rows. -/
def rowsOf (width : Nat) : (height : Nat) → List Rgba → List (List Rgba)
  | 0, _ => []
  | height + 1, pixels => pixels.take width :: rowsOf width height (pixels.drop width)

section
variable {width height : Nat} {pixels : List Rgba}

theorem flatten_rowsOf (whole : pixels.length = width * height) :
    (rowsOf width height pixels).flatten = pixels := by
  induction height generalizing pixels with
  | zero => exact (List.eq_nil_of_length_eq_zero whole).symm
  | succ height ih =>
    rw [Nat.mul_succ] at whole
    rw [rowsOf, List.flatten_cons, ih (by rw [List.length_drop]; omega), List.take_append_drop]

theorem length_row (whole : pixels.length = width * height) :
    ∀ row ∈ rowsOf width height pixels, row.length = width := by
  induction height generalizing pixels with
  | zero => simp [rowsOf]
  | succ height ih =>
    rw [Nat.mul_succ] at whole
    intro row hrow
    rcases List.mem_cons.mp hrow with rfl | hrow
    · rw [List.length_take]
      omega
    · exact ih (by rw [List.length_drop]; omega) row hrow

theorem length_bytes (row : List Rgba) : (row.flatMap Rgba.bytes).length = 4 * row.length := by
  simp [List.length_flatMap, Rgba.bytes, List.map_const', Nat.mul_comm]

theorem length_rawRows (whole : pixels.length = width * height) :
    (rawRows width height pixels).length = height * (1 + 4 * width) := by
  induction height generalizing pixels with
  | zero => simp [rawRows]
  | succ height ih =>
    rw [Nat.mul_succ] at whole
    rw [rawRows, List.length_cons, List.length_append, length_bytes, List.length_take,
      ih (by rw [List.length_drop]; omega), Nat.add_mul, Nat.min_eq_left (by omega)]
    omega

theorem length_rowsOf (width height : Nat) (pixels : List Rgba) :
    (rowsOf width height pixels).length = height := by
  induction height generalizing pixels with
  | zero => rfl
  | succ height ih => rw [rowsOf, List.length_cons, ih]

end

/-- Rows of bytes, each with no filter. -/
def storedRows (rows : List (List UInt8)) : List UInt8 := rows.flatMap (0 :: ·)

theorem rawRows_eq (width height : Nat) (pixels : List Rgba) : rawRows width height pixels =
    storedRows ((rowsOf width height pixels).map fun row => row.flatMap Rgba.bytes) := by
  induction height generalizing pixels with
  | zero => rfl
  | succ height ih =>
    rw [rawRows, rowsOf, ih, List.map_cons, storedRows, storedRows, List.flatMap_cons,
      List.cons_append]

/-- Rows that were written without a filter are read as they are. -/
theorem rows?_storedRows {rows : List (List UInt8)} {rowBytes : Nat}
    (lengths : ∀ row ∈ rows, row.length = rowBytes) (step : Nat) (before : List UInt8)
    (above : Array UInt8) :
    rows? step rowBytes (before ++ storedRows rows).toArray rows.length before.length above =
      some (rows.map List.toArray) := by
  -- The rows that have been read are part of what stands before.
  induction rows generalizing before above with
  | nil => rfl
  | cons row rows ih =>
    have length : row.length = rowBytes := lengths row List.mem_cons_self
    have later := ih (fun row hrow => lengths row (List.mem_cons_of_mem _ hrow))
      (before ++ 0 :: row) row.toArray
    have whole : storedRows (row :: rows) = 0 :: (row ++ storedRows rows) := List.flatMap_cons
    rw [whole]
    generalize storedRows rows = rest at later
    have filter : (before ++ 0 :: (row ++ rest)).toArray.getD before.length 0 = 0 := by simp
    have stored : (before ++ 0 :: (row ++ rest)).toArray.extract (before.length + 1)
        (before.length + 1 + rowBytes) = row.toArray := by
      rw [List.extract_toArray, List.extract_eq_take_drop, Nat.add_sub_cancel_left,
        ← List.drop_drop, List.drop_left, List.drop_one, List.tail_cons, ← length, List.take_left]
    rw [List.append_assoc, List.cons_append, List.length_append, List.length_cons, length,
      ← Nat.add_assoc, Nat.add_right_comm] at later
    rw [List.length_cons, rows?, filter, stored, unfilter?, if_pos rfl]
    simp only [Option.bind_eq_bind, Option.bind_some]
    rw [later]
    rfl

/-- A file in which the rows of a picture are not compressed. -/
def storedFile (h : Header) (raw : List UInt8) : List UInt8 :=
  signature ++ (Chunk.mk .header h.toData).write ++ (Chunk.mk .data (Deflate.store raw)).write ++
    (Chunk.mk .finish []).write

/-- The bytes are those of a picture that can be read, without palette and in a single pass. -/
structure Stores (h : Header) (raw : List UInt8) : Prop where
  valid : Header.ofData? h.toData = some h
  plain : h.color ≠ .indexed
  single : h.interlaced = false
  filled : raw ≠ []
  whole : raw.length = h.rawSize
  short : (Deflate.store raw).length < UInt32.size
  row : h.width.toNat * (Preamble.mk h none none).expandedPixel ≤ memoryLimit
  fits : h.width.toNat * h.height.toNat * (Preamble.mk h none none).expandedPixel ≤ memoryLimit

/-- Such a file begins with the size of its picture. -/
theorem preamble?_storedFile {h : Header} (valid : Header.ofData? h.toData = some h)
    (row : h.width.toNat * (Preamble.mk h none none).expandedPixel ≤ memoryLimit)
    (raw extra : List UInt8) :
    preamble? (storedFile h raw ++ extra) =
      some ((⟨h, none, none⟩, (Chunk.mk .data (Deflate.store raw)).announced),
        (Chunk.mk .data (Deflate.store raw)).tail ++ ((Chunk.mk .finish []).write ++ extra)) := by
  rw [storedFile, List.append_assoc, List.append_assoc, List.append_assoc]
  exact preamble?_written valid row rfl _

theorem Stores.decode?_append {h : Header} {raw : List UInt8} (stores : Stores h raw)
    (extra : List UInt8) : decode? (storedFile h raw ++ extra) =
      (passRows? ⟨h, none, none⟩ [] raw.toArray 0 .whole).map fun rows =>
        ⟨h.width, h.height, rows.flatten⟩ := by
  obtain ⟨fuel, fuelled⟩ : ∃ fuel, (storedFile h raw ++ extra).length = fuel + 1 :=
    ⟨_, by rw [storedFile, signature]; exact List.length_cons⟩
  have begun := preamble?_storedFile stores.valid stores.row raw extra
  have memory := Nat.not_lt.mpr stores.fits
  have palette : (Preamble.mk h none none).usedPalette? = some [] := if_neg stores.plain
  have last : (Chunk.mk .finish []).kind ≠ .data := by decide
  have data : pixelData? (fuel + 1) (Deflate.store raw).length
      ((Chunk.mk .data (Deflate.store raw)).tail ++ ((Chunk.mk .finish []).write ++ extra)) =
        some (Deflate.store raw) :=
    pixelData?_one (c := ⟨.data, Deflate.store raw⟩) rfl last fuel extra
  have inflated : Deflate.inflate? h.rawSize (Deflate.store raw) = some raw.toArray := by
    rw [← stores.whole]
    exact Deflate.inflate?_store stores.filled
  have shown : pixelsOfRaw? ⟨h, none, none⟩ [] raw.toArray =
      (passRows? ⟨h, none, none⟩ [] raw.toArray 0 .whole).map List.flatten := by
    simp only [pixelsOfRaw?, stores.single, Bool.false_eq_true, if_false]
  rw [Chunk.announced_of_short stores.short] at begun
  rw [decode?, fuelled, begun]
  simp only [Option.bind_eq_bind, Option.bind_some, memory, if_false, palette, data, inflated,
    shown]
  cases passRows? ⟨h, none, none⟩ [] raw.toArray 0 .whole <;> rfl

theorem rawSize_single {h : Header} (single : h.interlaced = false) (wide : h.width.toNat ≠ 0) :
    h.rawSize = h.height.toNat * (1 + h.rowBytes h.width.toNat) := by
  have width : Pass.whole.width h = h.width.toNat := Pass.width_whole h
  have height : Pass.whole.height h = h.height.toNat := Pass.height_whole h
  have passes : h.passes = [Pass.whole] := by rw [Header.passes, if_neg (by simp [single])]
  rw [Header.rawSize, passes, List.foldl_cons, List.foldl_nil, Nat.zero_add, Pass.size, width,
    height, if_neg wide]

/-- The rows of a pass over the whole picture. -/
theorem passRows?_storedRows {h : Header} (wide : h.width.toNat ≠ 0) {rows : List (List UInt8)}
    (count : rows.length = h.height.toNat)
    (lengths : ∀ row ∈ rows, row.length = h.rowBytes h.width.toNat) :
    passRows? ⟨h, none, none⟩ [] (storedRows rows).toArray 0 .whole =
      some (rows.map fun row =>
        pixels ⟨h, none, none⟩ [] h.width.toNat (samples h.depth row)) := by
  have width : Pass.whole.width h = h.width.toNat := Pass.width_whole h
  have height : Pass.whole.height h = h.height.toNat := Pass.height_whole h
  have stored := rows?_storedRows lengths ((h.bitsPerPixel + 7) / 8) []
    (Array.replicate (h.rowBytes h.width.toNat) 0)
  rw [List.nil_append, List.length_nil, count] at stored
  simp only [passRows?, width, height, wide, if_false, stored, Option.bind_eq_bind,
    Option.bind_some, List.map_map]
  rfl

/-- The bytes that are stored for a picture. -/
def raw (p : Picture) : List UInt8 := rawRows p.width.toNat p.height.toNat p.pixels

/-- A picture that can be read from the file that is written for it. -/
structure Readable (p : Picture) : Prop where
  complete : p.Complete
  wide : p.width ≠ 0
  high : p.height ≠ 0
  fits : p.width.toNat * p.height.toNat * 4 ≤ memoryLimit

namespace Readable

variable {p : Picture} (readable : Readable p)
include readable

theorem width_ne_zero : p.width.toNat ≠ 0 := fun zero => readable.wide (UInt32.toNat_inj.mp zero)

theorem height_ne_zero : p.height.toNat ≠ 0 := fun zero => readable.high (UInt32.toNat_inj.mp zero)

theorem length_raw : (raw p).length = p.height.toNat * (1 + 4 * p.width.toNat) :=
  length_rawRows readable.complete

theorem raw_ne_nil : raw p ≠ [] := by
  rw [← List.length_pos_iff, readable.length_raw]
  exact Nat.mul_pos (Nat.pos_of_ne_zero readable.height_ne_zero) (by omega)

theorem row_fits : p.width.toNat * 4 ≤ memoryLimit :=
  Nat.le_trans (Nat.mul_le_mul_right 4 (Nat.le_mul_of_pos_right _
    (Nat.pos_of_ne_zero readable.height_ne_zero))) readable.fits

/-- The length of the chunk of pixels is one that a chunk can have. -/
theorem short_store : (Deflate.store (raw p)).length < UInt32.size := by
  have column : p.height.toNat ≤ p.width.toNat * p.height.toNat :=
    Nat.le_mul_of_pos_left _ (Nat.pos_of_ne_zero readable.width_ne_zero)
  have length : (raw p).length = p.height.toNat + p.width.toNat * p.height.toNat * 4 := by
    rw [readable.length_raw, Nat.mul_add, Nat.mul_one, Nat.mul_left_comm,
      Nat.mul_comm 4, Nat.mul_comm p.height.toNat]
  have stored := Deflate.length_store (raw p)
  have fits := readable.fits
  rw [memoryLimit] at fits
  rw [UInt32.size]
  omega

end Readable

theorem rowBytes_canonicalHeader (p : Picture) (width : Nat) :
    (canonicalHeader p).rowBytes width = 4 * width := by
  simp only [Header.rowBytes, Header.bitsPerPixel, canonicalHeader, ColorType.channels]
  omega

theorem encode_eq (p : Picture) : encode p = storedFile (canonicalHeader p) (raw p) := rfl

section
variable {p : Picture} (wide : p.width ≠ 0) (high : p.height ≠ 0)
include wide high

theorem ofData?_canonicalHeader :
    Header.ofData? (canonicalHeader p).toData = some (canonicalHeader p) :=
  Header.ofData?_toData wide high (by simp [canonicalHeader, ColorType.depths])

variable (fits : p.width.toNat * 4 ≤ memoryLimit)
include fits

theorem dimensions?_encode (extra : List UInt8) :
    dimensions? (encode p ++ extra) = some (p.width, p.height) := by
  rw [dimensions?, encode_eq, preamble?_storedFile (ofData?_canonicalHeader wide high) fits,
    Option.map_some]
  rfl

/-- A picture that takes more memory than there is cannot be read from its own file. -/
theorem decode?_encode_of_large (large : memoryLimit < p.width.toNat * p.height.toNat * 4)
    (extra : List UInt8) : decode? (encode p ++ extra) = none := by
  have memory : memoryLimit < (canonicalHeader p).width.toNat * (canonicalHeader p).height.toNat *
      (Preamble.mk (canonicalHeader p) none none).expandedPixel := large
  rw [decode?, encode_eq, preamble?_storedFile (ofData?_canonicalHeader wide high) fits]
  simp only [Option.bind_eq_bind, Option.bind_some, memory, if_true, Option.bind_none]

end

section
variable {p : Picture} (readable : Readable p)
include readable

theorem Readable.stores : Stores (canonicalHeader p) (raw p) where
  valid := ofData?_canonicalHeader readable.wide readable.high
  plain := nofun
  single := rfl
  filled := readable.raw_ne_nil
  whole := by
    have size : (canonicalHeader p).rawSize =
        p.height.toNat * (1 + (canonicalHeader p).rowBytes p.width.toNat) :=
      rawSize_single rfl readable.width_ne_zero
    rw [size, readable.length_raw, rowBytes_canonicalHeader]
  short := readable.short_store
  row := readable.row_fits
  fits := readable.fits

theorem passRows?_raw : passRows? ⟨canonicalHeader p, none, none⟩ [] (raw p).toArray 0 .whole =
    some (rowsOf p.width.toNat p.height.toNat p.pixels) := by
  have lengths := length_row readable.complete
  rw [raw, rawRows_eq, passRows?_storedRows (h := canonicalHeader p) readable.width_ne_zero,
    List.map_map]
  · refine congrArg some ((List.map_congr_left fun row hrow => ?_).trans (List.map_id _))
    have same := pixels_bytes (p := ⟨canonicalHeader p, none, none⟩) rfl rfl [] row
    rw [lengths row hrow] at same
    exact same
  · rw [List.length_map, length_rowsOf]
    rfl
  · intro bytes hbytes
    obtain ⟨row, hrow, rfl⟩ := List.mem_map.mp hbytes
    rw [length_bytes, lengths row hrow]
    exact (rowBytes_canonicalHeader p p.width.toNat).symm

/-- What is written is read back, whatever comes after it. -/
theorem decode?_encode_append (extra : List UInt8) : decode? (encode p ++ extra) = some p := by
  rw [encode_eq, readable.stores.decode?_append, passRows?_raw readable, Option.map_some,
    flatten_rowsOf readable.complete]
  rfl

theorem decode?_encode : decode? (encode p) = some p := by
  have read := decode?_encode_append readable []
  rwa [List.append_nil] at read

end

end PlayerRegistry.Png
