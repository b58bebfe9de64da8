/-!
# Pictures

A rectangle of pixels with eight bits a channel, row by row.
-/

namespace PlayerRegistry

structure Rgba where
  red : UInt8
  green : UInt8
  blue : UInt8
  alpha : UInt8
  deriving DecidableEq, Inhabited

def Rgba.bytes (p : Rgba) : List UInt8 := [p.red, p.green, p.blue, p.alpha]

structure Picture where
  width : UInt32
  height : UInt32
  pixels : List Rgba
  deriving DecidableEq

namespace Picture

/-- The picture has as many pixels as its size says. -/
def Complete (p : Picture) : Prop := p.pixels.length = p.width.toNat * p.height.toNat

def bytes (p : Picture) : List UInt8 := p.pixels.flatMap Rgba.bytes

end Picture

end PlayerRegistry
