import PlayerRegistry.Deflate.Inflate
import PlayerRegistry.Picture
import PlayerRegistry.Png.Filter
import PlayerRegistry.Png.Header

/-!
# Reading a PNG file

From the chunks of pixels to a picture with eight bits a channel.
-/

namespace PlayerRegistry.Png

/-- The data of consecutive chunks of pixels. Each has to be intact, and the head of another chunk
has to follow. `length` is the length of the chunk whose head has just been read. -/
def pixelData? : Nat → (length : Nat) → List UInt8 → Option (List UInt8)
  | 0, _, _ => none
  | fuel + 1, length, bytes => do
    let ((chunk, intact), rest) ← Chunk.body? length .data bytes
    if !intact then none
    let ((next, kind), rest) ← Chunk.head? rest
    if kind = .data then
      let more ← pixelData? fuel next rest
      return chunk.data ++ more
    else return chunk.data

/-- A pass over the picture: where it begins and the steps it takes. -/
structure Pass where
  x : Nat
  y : Nat
  stepX : Nat
  stepY : Nat

namespace Pass

def whole : Pass := ⟨0, 0, 1, 1⟩

/-- The seven passes of an interlaced picture. -/
def interlaced : List Pass :=
  [⟨0, 0, 8, 8⟩, ⟨4, 0, 8, 8⟩, ⟨0, 4, 4, 8⟩, ⟨2, 0, 4, 4⟩, ⟨0, 2, 2, 4⟩, ⟨1, 0, 2, 2⟩,
    ⟨0, 1, 1, 2⟩]

def width (p : Pass) (h : Header) : Nat := (h.width.toNat + p.stepX - 1 - p.x) / p.stepX

def height (p : Pass) (h : Header) : Nat := (h.height.toNat + p.stepY - 1 - p.y) / p.stepY

/-- Bytes of the pass, with the number of the filter before each row; a pass without pixels has no
rows. -/
def size (p : Pass) (h : Header) : Nat :=
  if p.width h = 0 then 0 else p.height h * (1 + h.rowBytes (p.width h))

def contains (p : Pass) (x y : Nat) : Bool :=
  p.x ≤ x && p.y ≤ y && (x - p.x) % p.stepX == 0 && (y - p.y) % p.stepY == 0

end Pass

def Header.passes (h : Header) : List Pass :=
  if h.interlaced then Pass.interlaced else [Pass.whole]

/-- Bytes that the chunks of pixels have to hold when inflated. -/
def Header.rawSize (h : Header) : Nat := h.passes.foldl (fun size p => size + p.size h) 0

/-- The rows that begin at `start`, unfiltered. -/
def rows? (step rowBytes : Nat) (raw : Array UInt8) :
    (count start : Nat) → (above : Array UInt8) → Option (List (Array UInt8))
  | 0, _, _ => some []
  | count + 1, start, above => do
    let stored := raw.extract (start + 1) (start + 1 + rowBytes)
    let row ← unfilter? step (raw.getD start 0) above stored
    let rest ← rows? step rowBytes raw count (start + 1 + rowBytes) row
    return row :: rest

/-- The samples of a byte that holds several, the first one in the highest bits. -/
def samplesOfByte (depth : Nat) (b : UInt8) : List Nat :=
  (List.range (8 / depth)).map fun k => (b.toNat >>> (8 - depth * (k + 1))) % (1 <<< depth)

/-- Pairs of bytes as samples of sixteen bits. -/
def deepSamples : List UInt8 → List Nat
  | high :: low :: rest => (256 * high.toNat + low.toNat) :: deepSamples rest
  | _ => []

def samples (depth : Nat) (row : List UInt8) : List Nat :=
  if depth = 8 then row.map UInt8.toNat
  else if depth = 16 then deepSamples row
  else row.flatMap (samplesOfByte depth)

/-- A sample as a channel of eight bits. -/
def channel (depth : Nat) (sample : Nat) : UInt8 :=
  UInt8.ofNat (if depth = 16 then (sample + 128) / 257 else sample * 255 / ((1 <<< depth) - 1))

def opacity (p : Preamble) (pixel : List Nat) : UInt8 :=
  match p.transparency with
  | some (.color samples) => if pixel = samples then 0 else 255
  | _ => 255

/-- The color that a palette gives to an index: black beyond its end. -/
def paletteColor (p : Preamble) (palette : List UInt8) (index : Nat) : Rgba :=
  let part (k : Nat) := (palette[3 * index + k]?).getD 0
  let alpha := match p.transparency with
    | some (.entries alphas) => (alphas[index]?).getD 255
    | _ => 255
  ⟨part 0, part 1, part 2, alpha⟩

/-- The pixels of a sequence of samples, at most `count` of them. -/
def pixels (p : Preamble) (palette : List UInt8) : (count : Nat) → List Nat → List Rgba
  | 0, _ => []
  | count + 1, values =>
    let c := channel p.header.depth
    match p.header.color, values with
    | .gray, v :: rest =>
      ⟨c v, c v, c v, opacity p [v]⟩ :: pixels p palette count rest
    | .grayAlpha, v :: a :: rest => ⟨c v, c v, c v, c a⟩ :: pixels p palette count rest
    | .rgb, r :: g :: b :: rest =>
      ⟨c r, c g, c b, opacity p [r, g, b]⟩ :: pixels p palette count rest
    | .rgba, r :: g :: b :: a :: rest => ⟨c r, c g, c b, c a⟩ :: pixels p palette count rest
    | .indexed, v :: rest => paletteColor p palette v :: pixels p palette count rest
    | _, _ => []

/-- The pixels of each row of a pass. -/
def passRows? (p : Preamble) (palette : List UInt8) (raw : Array UInt8) (start : Nat)
    (pass : Pass) : Option (List (List Rgba)) := do
  let h := p.header
  let width := pass.width h
  if width = 0 then return []
  let rowBytes := h.rowBytes width
  let step := (h.bitsPerPixel + 7) / 8
  let rows ← rows? step rowBytes raw (pass.height h) start (Array.replicate rowBytes 0)
  return rows.map fun row => pixels p palette width (samples h.depth row.toList)

/-- The passes and their rows, one pass after the other. -/
def allRows? (p : Preamble) (palette : List UInt8) (raw : Array UInt8) :
    Nat → List Pass → Option (List (Pass × Array (Array Rgba)))
  | _, [] => some []
  | start, pass :: rest => do
    let rows ← passRows? p palette raw start pass
    let others ← allRows? p palette raw (start + pass.size p.header) rest
    return (pass, (rows.map List.toArray).toArray) :: others

/-- The pixel at a place: it belongs to one pass. -/
def pixelAt (passes : List (Pass × Array (Array Rgba))) (x y : Nat) : Rgba :=
  match passes.find? fun (pass, _) => pass.contains x y with
  | some (pass, rows) =>
    (rows.getD ((y - pass.y) / pass.stepY) #[]).getD ((x - pass.x) / pass.stepX) default
  | none => default

/-- The pixels of the picture, row by row. -/
def pixelsOfRaw? (p : Preamble) (palette : List UInt8) (raw : Array UInt8) :
    Option (List Rgba) :=
  let h := p.header
  if h.interlaced then
    (allRows? p palette raw 0 Pass.interlaced).map fun passes =>
      (List.range h.height.toNat).flatMap fun y =>
        (List.range h.width.toNat).map fun x => pixelAt passes x y
  else (passRows? p palette raw 0 .whole).map List.flatten

/-- The palette that a picture needs; one without indexed colors needs none. -/
def Preamble.usedPalette? (p : Preamble) : Option (List UInt8) :=
  if p.header.color = .indexed then p.palette else some []

/-- The picture in a PNG file. -/
def decode? (file : List UInt8) : Option Picture := do
  let ((p, length), rest) ← preamble? file
  let h := p.header
  if memoryLimit < h.width.toNat * h.height.toNat * p.expandedPixel then none
  let palette ← p.usedPalette?
  let stream ← pixelData? file.length length rest
  let raw ← Deflate.inflate? h.rawSize stream
  let pixels ← pixelsOfRaw? p palette raw
  return ⟨h.width, h.height, pixels⟩

end PlayerRegistry.Png
