/-!
# Row filters

A row is stored as differences to what its neighbours predict: the pixel on the left, above, or
both.
-/

namespace PlayerRegistry.Png

/-- Of three neighbours the one that is nearest to `left + up - corner`. -/
def paeth (left up corner : UInt8) : UInt8 :=
  let estimate : Int := left.toNat + up.toNat - corner.toNat
  let distance (x : UInt8) := (estimate - x.toNat).natAbs
  if distance left ≤ distance up ∧ distance left ≤ distance corner then left
  else if distance up ≤ distance corner then up
  else corner

/-- The prediction of a filter; none if there is no filter of this number. -/
def predictor? : UInt8 → Option (UInt8 → UInt8 → UInt8 → UInt8)
  | 1 => some fun left _ _ => left
  | 2 => some fun _ up _ => up
  | 3 => some fun left up _ => UInt8.ofNat ((left.toNat + up.toNat) / 2)
  | 4 => some paeth
  | _ => none

/-- The bytes of a row, from its filter and its differences. `step` is the distance to the byte of
the pixel on the left, and `above` the row above. -/
def unfilter? (step : Nat) (filter : UInt8) (above row : Array UInt8) : Option (Array UInt8) :=
  if filter = 0 then some row
  else (predictor? filter).map fun predict =>
    (List.range row.size).foldl (fun out i =>
      let left := if i < step then 0 else out.getD (i - step) 0
      let corner := if i < step then 0 else above.getD (i - step) 0
      out.push (row.getD i 0 + predict left (above.getD i 0) corner)) #[]

end PlayerRegistry.Png
