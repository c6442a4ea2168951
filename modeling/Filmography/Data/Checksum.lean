import Filmography.Data.Utf8

/-!
# Checksums

The cyclic redundancy check of 32 bits by which compressed files are checked: the remainder of the
bytes, as a polynomial over two elements, with the bits of each byte taken lowest first.
-/

namespace Filmography.Checksum

/-- The divisor, its bits in reverse. -/
def divisor : UInt32 := 0xEDB88320

/-- Divide once. -/
def shift (r : UInt32) : UInt32 :=
  if r &&& 1 = 1 then (r >>> 1) ^^^ divisor else r >>> 1

/-- The remainder after one more byte. -/
def step (r : UInt32) (b : UInt8) : UInt32 :=
  Nat.repeat shift 8 (r ^^^ b.toUInt32)

/-- The checksum of some bytes. -/
def ofBytes (bytes : Bytes) : UInt32 :=
  bytes.foldl step 0xFFFFFFFF ^^^ 0xFFFFFFFF

end Filmography.Checksum
