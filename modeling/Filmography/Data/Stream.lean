import Filmography.Data.Fault
import Filmography.Data.Utf8

/-!
# Streams

What can be read of a file: some bytes, and what keeps more from being read if they are not all.
-/

namespace Filmography

/-- The bytes that a file yields. -/
structure Stream where
  /-- The bytes. -/
  bytes : Bytes
  /-- What keeps the rest from being read. -/
  fault : Option StreamFault := none
deriving DecidableEq, Repr

end Filmography
