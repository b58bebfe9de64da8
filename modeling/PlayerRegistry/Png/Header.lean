import PlayerRegistry.Png.Chunk

/-!
# Headers

What comes before the pixels of a PNG file: its size and the form of its samples, a palette, and
what is transparent.
-/

namespace PlayerRegistry.Png

inductive ColorType where
  | gray
  | rgb
  | indexed
  | grayAlpha
  | rgba
  deriving DecidableEq, Repr

namespace ColorType

def ofCode? : UInt8 → Option ColorType
  | 0 => some gray
  | 2 => some rgb
  | 3 => some indexed
  | 4 => some grayAlpha
  | 6 => some rgba
  | _ => none

/-- Samples of a pixel. -/
def channels : ColorType → Nat
  | gray | indexed => 1
  | grayAlpha => 2
  | rgb => 3
  | rgba => 4

/-- The depths that samples may have. -/
def depths : ColorType → List Nat
  | gray => [1, 2, 4, 8, 16]
  | indexed => [1, 2, 4, 8]
  | rgb | grayAlpha | rgba => [8, 16]

end ColorType

structure Header where
  width : UInt32
  height : UInt32
  depth : Nat
  color : ColorType
  interlaced : Bool

namespace Header

def bitsPerPixel (h : Header) : Nat := h.color.channels * h.depth

/-- Bytes of a row of `width` pixels. -/
def rowBytes (h : Header) (width : Nat) : Nat := (width * h.bitsPerPixel + 7) / 8

def ofData? (data : List UInt8) : Option Header := do
  let (width, rest) ← word? data
  let (height, rest) ← word? rest
  match rest with
  | [depth, color, compression, filter, interlace] =>
    let color ← ColorType.ofCode? color
    if width = 0 ∨ height = 0 ∨ depth.toNat ∉ color.depths ∨ compression ≠ 0 ∨ filter ≠ 0
        ∨ 1 < interlace then none
    else some ⟨width, height, depth.toNat, color, interlace == 1⟩
  | _ => none

def toData (h : Header) : List UInt8 :=
  let code : UInt8 := match h.color with
    | .gray => 0 | .rgb => 2 | .indexed => 3 | .grayAlpha => 4 | .rgba => 6
  Deflate.be32 h.width ++ Deflate.be32 h.height
    ++ [UInt8.ofNat h.depth, code, 0, 0, if h.interlaced then 1 else 0]

end Header

/-- The transparent sample values, or the opacity of the entries of the palette. -/
inductive Transparency where
  | none
  | color (samples : List Nat)
  | entries (alphas : List UInt8)

structure Preamble where
  header : Header
  palette : Option (List UInt8)
  transparency : Option Transparency

namespace Preamble

/-- A palette has 1 to 256 entries of three bytes, and there is at most one. -/
def withPalette? (p : Preamble) (data : List UInt8) : Option Preamble :=
  if p.palette.isSome ∨ data = [] ∨ data.length % 3 ≠ 0 ∨ 768 < data.length then none
  else some { p with palette := some data }

/-- Transparent samples have the depth of the picture; of shallow ones only the lower byte counts,
and deep ones match only if nothing follows them. -/
def transparentColor (p : Preamble) (data : List UInt8) : Option (List Nat) :=
  let n := p.header.color.channels
  if data.length < 2 * n then none
  else if p.header.depth < 16 then
    some ((List.range n).map fun k => ((data[2 * k + 1]?).getD 0).toNat)
  else if data.length = 2 * n then
    some ((List.range n).map fun k =>
      256 * ((data[2 * k]?).getD 0).toNat + ((data[2 * k + 1]?).getD 0).toNat)
  else some []

/-- What a transparency chunk makes of the picture; a chunk that breaks a rule has no effect. -/
def withTransparency (p : Preamble) (data : List UInt8) : Preamble :=
  if p.transparency.isSome then p
  else match p.header.color with
    | .gray | .rgb =>
      match p.transparentColor data with
      | some samples => { p with transparency := some (.color samples) }
      | none => p
    | .indexed =>
      match p.palette with
      | some palette =>
        if data.length ≤ palette.length / 3 then
          { p with transparency := some (.entries data) }
        else p
      | none => p
    | .grayAlpha | .rgba => p

/-- Takes in a chunk with a right checksum that stands before the pixels. -/
def addChunk? : Option Preamble → Chunk → Option Preamble
  | none, c =>
    if c.kind = .header then (Header.ofData? c.data).map fun h => ⟨h, none, none⟩ else none
  | some p, c =>
    if c.kind = .palette then p.withPalette? c.data
    else if c.kind = .transparency then some (p.withTransparency c.data)
    else if c.kind.isCritical then none
    else some p

/-- Reads up to the head of the first chunk of pixels; gives its length and what follows. An
optional chunk with a wrong checksum is skipped. -/
def read? : Nat → Option Preamble → List UInt8 → Option ((Preamble × Nat) × List UInt8)
  | 0, _, _ => none
  | fuel + 1, p, bytes => do
    let ((length, kind), rest) ← Chunk.head? bytes
    if kind = .data then
      let p ← p
      return ((p, length), rest)
    else if kind = .frameData then none
    else
      let ((chunk, intact), rest) ← Chunk.body? length kind rest
      if intact then
        let p ← addChunk? p chunk
        read? fuel (some p) rest
      else if kind.isCritical ∨ p.isNone then none
      else read? fuel p rest

/-- Channels that a pixel has when palette and transparency have been applied. -/
def expandedChannels (p : Preamble) : Nat :=
  let extra := if p.transparency.isSome then 1 else 0
  match p.header.color with
  | .gray => 1 + extra
  | .grayAlpha => 2
  | .rgb | .indexed => 3 + extra
  | .rgba => 4

/-- Bytes of a pixel when palette and transparency have been applied. -/
def expandedPixel (p : Preamble) : Nat :=
  p.expandedChannels * (if p.header.depth = 16 then 2 else 1)

end Preamble

/-- Memory that reading a picture may take. -/
def memoryLimit : Nat := 512 * 1024 * 1024

/-- What comes before the pixels of a file, the length of the first chunk of pixels, and the bytes
after its head. A row has to fit into the memory. -/
def preamble? (file : List UInt8) : Option ((Preamble × Nat) × List UInt8) := do
  if file.take 8 ≠ signature then none
  let ((p, length), rest) ← Preamble.read? file.length none (file.drop 8)
  if memoryLimit < p.header.width.toNat * p.expandedPixel then none
  return ((p, length), rest)

/-- Width and height, as far as the file is in order up to its pixels. -/
def dimensions? (file : List UInt8) : Option (UInt32 × UInt32) :=
  (preamble? file).map fun ((p, _), _) => (p.header.width, p.header.height)

end PlayerRegistry.Png
