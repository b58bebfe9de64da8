/-!
# Byte strings
-/

namespace PlayerRegistry

/-- Byte strings are equal if their bytes are. -/
instance decidableByteArray : DecidableEq ByteArray := fun a b =>
  if h : a.data = b.data then isTrue (ByteArray.ext h) else isFalse fun e => h (e ▸ rfl)

end PlayerRegistry
