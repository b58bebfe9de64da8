import PlayerRegistry.Png.Decode

/-!
# Pictures that have been read

A picture that is read from a file has the size that the header tells, and exactly as many pixels as
that: whatever is inflated has at least the bytes that the rows of the picture need, and each row at
least the samples of its pixels.
-/

namespace PlayerRegistry

namespace Deflate

variable {needed fuel : Nat} {out out' : Array UInt8} {b : Bits}

theorem enough_of_stored? {bytes : List UInt8}
    (h : stored? needed out bytes = some (out', .enough)) : needed ≤ out'.size := by
  unfold stored? at h
  split at h
  · dsimp only at h
    split at h
    · cases h
    · split at h
      · rename_i enough
        cases h
        exact enough
      · split at h <;> cases h
  · cases h

theorem enough_of_symbols? {codes : Codes}
    (h : symbols? codes needed fuel out b = some (out', .enough)) : needed ≤ out'.size := by
  induction fuel generalizing out b with
  | zero => cases h
  | succ fuel ih =>
    rw [symbols?] at h
    by_cases enough : needed ≤ out.size
    · rw [if_pos enough] at h
      cases h
      exact enough
    · rw [if_neg enough] at h
      simp only [Option.bind_eq_bind, Option.bind_eq_some_iff] at h
      obtain ⟨⟨symbol, b⟩, -, h⟩ := h
      dsimp only at h
      split at h
      · exact ih h
      · split at h
        · cases h
        · simp only [Option.bind_eq_some_iff] at h
          obtain ⟨⟨⟨length, distance⟩, b⟩, -, h⟩ := h
          dsimp only at h
          split at h
          · cases h
          · exact ih h

theorem enough_of_block? {last : Bool}
    (h : block? needed out b = some ((out', .enough), last)) : needed ≤ out'.size := by
  simp only [block?, Option.bind_eq_bind, Option.bind_eq_some_iff] at h
  obtain ⟨⟨_, b₁⟩, -, ⟨kind, b₂⟩, -, h⟩ := h
  dsimp only at h
  split at h <;> simp only [Option.bind_eq_some_iff] at h
  · obtain ⟨_, read, ⟨⟩⟩ := h
    exact enough_of_stored? read
  · obtain ⟨codes, -, _, read, ⟨⟩⟩ := h
    exact enough_of_symbols? read
  · obtain ⟨⟨codes, b₃⟩, -, _, read, ⟨⟩⟩ := h
    exact enough_of_symbols? read
  · obtain ⟨_, ⟨⟩, -⟩ := h

theorem enough_of_blocks? (h : blocks? needed fuel out b = some out') : needed ≤ out'.size := by
  induction fuel generalizing out b with
  | zero => cases h
  | succ fuel ih =>
    rw [blocks?] at h
    by_cases enough : needed ≤ out.size
    · rw [if_pos enough] at h
      cases h
      exact enough
    · rw [if_neg enough] at h
      simp only [Option.bind_eq_bind, Option.bind_eq_some_iff] at h
      obtain ⟨⟨⟨out₁, stop⟩, last⟩, read, h⟩ := h
      cases stop with
      | enough =>
        cases h
        exact enough_of_block? read
      | endOfBlock b₁ =>
        dsimp only at h
        split at h
        · split at h
          · rename_i enough
            cases h
            exact enough
          · cases h
        · exact ih h

/-- What is inflated is as much as is needed. -/
theorem enough_of_inflate? {stream : List UInt8} (h : inflate? needed stream = some out) :
    needed ≤ out.size := by
  unfold inflate? at h
  split at h
  · split at h
    · exact enough_of_blocks? h
    · cases h
  · cases h

end Deflate

namespace Png

/-- What holds of every header that is read. -/
structure Header.Sound (h : Header) : Prop where
  width : 0 < h.width.toNat
  depth : h.depth ∈ h.color.depths

theorem Header.sound_of_ofData? {data : List UInt8} {h : Header} (read : ofData? data = some h) :
    h.Sound := by
  simp only [ofData?, Option.bind_eq_bind, Option.bind_eq_some_iff] at read
  obtain ⟨⟨width, _⟩, -, ⟨height, rest⟩, -, read⟩ := read
  dsimp only at read
  split at read
  · simp only [Option.bind_eq_some_iff] at read
    obtain ⟨color, -, read⟩ := read
    rw [Option.ite_none_left_eq_some] at read
    obtain ⟨sound, same⟩ := read
    cases Option.some.inj same
    simp only [not_or, Decidable.not_not] at sound
    exact ⟨Nat.pos_of_ne_zero fun zero => sound.1 (UInt32.toNat_inj.mp zero), sound.2.2.1⟩
  · cases read

theorem Preamble.header_withTransparency (p : Preamble) (data : List UInt8) :
    (p.withTransparency data).header = p.header := by
  unfold withTransparency
  repeat' split
  all_goals rfl

/-- A header is kept once it has been read. -/
theorem Preamble.sound_of_addChunk? {p : Option Preamble} {c : Chunk} {p' : Preamble}
    (sound : ∀ q ∈ p, q.header.Sound) (added : addChunk? p c = some p') : p'.header.Sound := by
  cases p with
  | none =>
    rw [addChunk?, Option.ite_none_right_eq_some] at added
    obtain ⟨-, added⟩ := added
    obtain ⟨h, read, rfl⟩ := Option.map_eq_some_iff.mp added
    exact Header.sound_of_ofData? read
  | some q =>
    have old : q.header.Sound := sound q rfl
    unfold addChunk? at added
    dsimp only at added
    split at added
    · rw [withPalette?, Option.ite_none_left_eq_some] at added
      rw [← Option.some.inj added.2]
      exact old
    · split at added
      · rw [← Option.some.inj added, header_withTransparency]
        exact old
      · rw [Option.ite_none_left_eq_some] at added
        rw [← Option.some.inj added.2]
        exact old

theorem Preamble.sound_of_read? {fuel : Nat} {p : Option Preamble} {bytes rest : List UInt8}
    {p' : Preamble} {length : Nat} (sound : ∀ q ∈ p, q.header.Sound)
    (read : read? fuel p bytes = some ((p', length), rest)) : p'.header.Sound := by
  induction fuel generalizing p bytes with
  | zero => cases read
  | succ fuel ih =>
    simp only [read?, Option.bind_eq_bind, Option.bind_eq_some_iff] at read
    obtain ⟨⟨⟨announced, kind⟩, rest₁⟩, -, read⟩ := read
    dsimp only at read
    split at read
    · simp only [Option.bind_eq_some_iff] at read
      obtain ⟨_, held, ⟨⟩⟩ := read
      exact sound _ held
    · rw [Option.ite_none_left_eq_some] at read
      simp only [Option.bind_eq_some_iff] at read
      obtain ⟨-, ⟨⟨chunk, intact⟩, rest₂⟩, -, read⟩ := read
      dsimp only at read
      split at read
      · simp only [Option.bind_eq_some_iff] at read
        obtain ⟨q, added, read⟩ := read
        refine ih ?_ read
        rintro _ ⟨⟩
        exact sound_of_addChunk? sound added
      · rw [Option.ite_none_left_eq_some] at read
        exact ih sound read.2

theorem length_deepSamples : ∀ bytes : List UInt8, (deepSamples bytes).length = bytes.length / 2
  | [] => rfl
  | [_] => by simp [deepSamples]
  | _ :: _ :: rest => by
    rw [deepSamples, List.length_cons, length_deepSamples rest, List.length_cons, List.length_cons]
    omega

theorem length_samples (depth : Nat) (row : List UInt8) : (samples depth row).length =
    if depth = 8 then row.length
    else if depth = 16 then row.length / 2
    else row.length * (8 / depth) := by
  unfold samples
  split
  · simp
  · split
    · exact length_deepSamples row
    · rw [List.length_flatMap]
      simp [samplesOfByte, List.map_const']

/-- The bytes of a row hold a sample for each channel of each pixel. -/
theorem Header.Sound.samples {h : Header} (sound : h.Sound) {width : Nat} {row : List UInt8}
    (length : row.length = h.rowBytes width) :
    width * h.color.channels ≤ (Png.samples h.depth row).length := by
  have depths := sound.depth
  rw [length_samples, length, rowBytes, bitsPerPixel]
  generalize h.depth = depth, h.color = color at depths ⊢
  -- Only samples of a single channel may be smaller than a byte.
  cases color with
  | gray =>
    have depths : depth = 1 ∨ depth = 2 ∨ depth = 4 ∨ depth = 8 ∨ depth = 16 := by
      simpa [ColorType.depths] using depths
    rcases depths with rfl | rfl | rfl | rfl | rfl <;> simp [ColorType.channels] <;> omega
  | indexed =>
    have depths : depth = 1 ∨ depth = 2 ∨ depth = 4 ∨ depth = 8 := by
      simpa [ColorType.depths] using depths
    rcases depths with rfl | rfl | rfl | rfl <;> simp [ColorType.channels] <;> omega
  | _ =>
    have depths : depth = 8 ∨ depth = 16 := by simpa [ColorType.depths] using depths
    rcases depths with rfl | rfl <;> simp [ColorType.channels] <;> omega

/-- Where there are samples for a pixel, it comes first, and what follows is made of the others. -/
theorem exists_pixel (p : Preamble) (palette : List UInt8) (count : Nat) {values : List Nat}
    (enough : p.header.color.channels ≤ values.length) :
    ∃ pixel, pixels p palette (count + 1) values =
      pixel :: pixels p palette count (values.drop p.header.color.channels) := by
  rw [pixels.eq_def]
  dsimp only
  cases color : p.header.color <;> rw [color] at enough
  case gray | indexed =>
    obtain _ | ⟨v, rest⟩ := values
    · cases enough
    · exact ⟨_, rfl⟩
  case grayAlpha =>
    obtain _ | ⟨v, _ | ⟨a, rest⟩⟩ := values
    iterate 2 simp [ColorType.channels] at enough
    exact ⟨_, rfl⟩
  case rgb =>
    obtain _ | ⟨r, _ | ⟨g, _ | ⟨b, rest⟩⟩⟩ := values
    iterate 3 simp [ColorType.channels] at enough
    exact ⟨_, rfl⟩
  case rgba =>
    obtain _ | ⟨r, _ | ⟨g, _ | ⟨b, _ | ⟨a, rest⟩⟩⟩⟩ := values
    iterate 4 simp [ColorType.channels] at enough
    exact ⟨_, rfl⟩

theorem length_pixels (p : Preamble) (palette : List UInt8) {count : Nat} {values : List Nat}
    (enough : count * p.header.color.channels ≤ values.length) :
    (pixels p palette count values).length = count := by
  induction count generalizing values with
  | zero => rw [pixels, List.length_nil]
  | succ count ih =>
    rw [Nat.succ_mul] at enough
    have held : p.header.color.channels ≤ values.length := by omega
    obtain ⟨pixel, first⟩ := exists_pixel p palette count held
    rw [first, List.length_cons, ih]
    rw [List.length_drop]
    omega

theorem size_unfilter? {step : Nat} {filter : UInt8} {above row out : Array UInt8}
    (h : unfilter? step filter above row = some out) : out.size = row.size := by
  rw [unfilter?] at h
  split at h
  · rw [← Option.some.inj h]
  · obtain ⟨predict, -, rfl⟩ := Option.map_eq_some_iff.mp h
    have pushed : ∀ (byte : Array UInt8 → Nat → UInt8) (is : List Nat) (out : Array UInt8),
        (is.foldl (fun out i => out.push (byte out i)) out).size = out.size + is.length := by
      intro byte is
      induction is with
      | nil => simp
      | cons i is ih =>
        intro out
        rw [List.foldl_cons, ih, Array.size_push, List.length_cons]
        omega
    exact (pushed _ _ _).trans (by simp)

/-- The rows are as many as they are asked for, and each of them has all its bytes. -/
theorem length_rows? {step rowBytes count start : Nat} {raw above : Array UInt8}
    {rows : List (Array UInt8)} (enough : start + count * (1 + rowBytes) ≤ raw.size)
    (h : rows? step rowBytes raw count start above = some rows) :
    rows.length = count ∧ ∀ row ∈ rows, row.size = rowBytes := by
  induction count generalizing start above rows with
  | zero =>
    cases h
    simp
  | succ count ih =>
    rw [Nat.succ_mul] at enough
    simp only [rows?, Option.bind_eq_bind, Option.bind_eq_some_iff] at h
    obtain ⟨row, unfiltered, rest, others, ⟨⟩⟩ := h
    obtain ⟨length, sizes⟩ := ih (by omega) others
    refine ⟨by rw [List.length_cons, length], ?_⟩
    intro row' hrow'
    rcases List.mem_cons.mp hrow' with rfl | hrow'
    · rw [size_unfilter? unfiltered, Array.size_extract]
      omega
    · exact sizes row' hrow'

theorem Pass.width_whole (h : Header) : whole.width h = h.width.toNat := by simp [width, whole]

theorem Pass.height_whole (h : Header) : whole.height h = h.height.toNat := by
  simp [height, whole]

theorem length_passRows? {p : Preamble} (sound : p.header.Sound) {palette : List UInt8}
    {raw : Array UInt8} {rows : List (List Rgba)} (enough : Pass.whole.size p.header ≤ raw.size)
    (h : passRows? p palette raw 0 .whole = some rows) :
    rows.length = p.header.height.toNat ∧ ∀ row ∈ rows, row.length = p.header.width.toNat := by
  have wide : p.header.width.toNat ≠ 0 := Nat.ne_of_gt sound.width
  rw [Pass.size, Pass.width_whole, Pass.height_whole, if_neg wide] at enough
  simp only [passRows?, Pass.width_whole, Pass.height_whole, if_neg wide, Option.bind_eq_bind,
    Option.bind_eq_some_iff] at h
  obtain ⟨stored, read, ⟨⟩⟩ := h
  obtain ⟨length, sizes⟩ := length_rows? (by omega) read
  refine ⟨by rw [List.length_map, length], ?_⟩
  intro row hrow
  obtain ⟨bytes, hbytes, rfl⟩ := List.mem_map.mp hrow
  exact length_pixels p palette (sound.samples (sizes bytes hbytes))

/-- The picture has as many pixels as its size tells. -/
theorem length_pixelsOfRaw? {p : Preamble} (sound : p.header.Sound) {palette : List UInt8}
    {raw : Array UInt8} {pixels : List Rgba} (enough : p.header.rawSize ≤ raw.size)
    (h : pixelsOfRaw? p palette raw = some pixels) :
    pixels.length = p.header.width.toNat * p.header.height.toNat := by
  rw [pixelsOfRaw?] at h
  cases interlaced : p.header.interlaced with
  | true =>
    simp only [interlaced, if_true, Option.map_eq_some_iff] at h
    obtain ⟨passes, -, rfl⟩ := h
    simp [List.length_flatMap, List.map_const', Nat.mul_comm]
  | false =>
    simp only [interlaced, Bool.false_eq_true, if_false, Option.map_eq_some_iff] at h
    obtain ⟨rows, read, rfl⟩ := h
    simp only [Header.rawSize, Header.passes, interlaced, Bool.false_eq_true, if_false,
      List.foldl_cons, List.foldl_nil, Nat.zero_add] at enough
    obtain ⟨length, lengths⟩ := length_passRows? sound enough read
    rw [List.length_flatten, List.map_congr_left lengths, List.map_const',
      List.sum_replicate_nat, length, Nat.mul_comm]

theorem sound_of_preamble? {file rest : List UInt8} {p : Preamble} {length : Nat}
    (h : preamble? file = some ((p, length), rest)) : p.header.Sound := by
  simp only [preamble?, Option.bind_eq_bind, Option.bind_none, Option.ite_none_left_eq_some,
    Option.bind_eq_some_iff] at h
  obtain ⟨-, ⟨⟨p', _⟩, _⟩, read, -, ⟨⟩⟩ := h
  exact Preamble.sound_of_read? (by simp) read

theorem Preamble.expandedPixel_pos (p : Preamble) : 0 < p.expandedPixel := by
  apply Nat.mul_pos
  · unfold expandedChannels
    cases p.header.color <;> dsimp only <;> omega
  · split <;> omega

/-- What is read is complete, it has the size of the header, and it fits into the memory. -/
theorem decode?_complete {file : List UInt8} {picture : Picture}
    (h : decode? file = some picture) :
    picture.Complete ∧ dimensions? file = some (picture.width, picture.height) ∧
      picture.width.toNat * picture.height.toNat ≤ memoryLimit := by
  simp only [decode?, Option.bind_eq_bind, Option.bind_none, Option.ite_none_left_eq_some,
    Option.bind_eq_some_iff] at h
  obtain ⟨⟨⟨p, length⟩, rest⟩, begun, fits, palette, -, stream, -, raw, inflated, pixels, read,
    ⟨⟩⟩ := h
  refine ⟨length_pixelsOfRaw? (sound_of_preamble? begun) (Deflate.enough_of_inflate? inflated) read,
    by simp [dimensions?, begun], ?_⟩
  exact Nat.le_trans (Nat.le_mul_of_pos_right _ p.expandedPixel_pos) (Nat.not_lt.mp fits)

end Png

end PlayerRegistry
