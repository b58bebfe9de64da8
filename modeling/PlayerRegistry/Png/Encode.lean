import PlayerRegistry.Picture
import PlayerRegistry.Png.Header

/-!
# Writing a PNG file

One file for every picture: eight bits a channel, four channels, no filters, one chunk of pixels.
-/

namespace PlayerRegistry.Png

def canonicalHeader (p : Picture) : Header := ⟨p.width, p.height, 8, .rgba, false⟩

/-- Rows of `width` pixels, with the number of the filter before each. -/
def rawRows (width : Nat) : (height : Nat) → List Rgba → List UInt8
  | 0, _ => []
  | height + 1, pixels =>
    0 :: ((pixels.take width).flatMap Rgba.bytes ++ rawRows width height (pixels.drop width))

def encode (p : Picture) : List UInt8 :=
  signature
    ++ (Chunk.mk .header (canonicalHeader p).toData).write
    ++ (Chunk.mk .data (Deflate.store (rawRows p.width.toNat p.height.toNat p.pixels))).write
    ++ (Chunk.mk .finish []).write

end PlayerRegistry.Png
