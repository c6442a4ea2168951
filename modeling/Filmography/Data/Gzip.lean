import Filmography.Data.Checksum
import Filmography.Data.Deflate

/-!
# Compressed files

A compressed file starts with a header, which may carry a name, a remark and other fields. Deflated
data follows, then a checksum and the count of its bytes. What comes after that is not read.
-/

namespace Filmography.Gzip

/-- Leave out a text that ends in a zero byte. -/
def skipText : Bytes → Except StreamFault Bytes
  | [] => .error .unexpectedEnd
  | b :: rest => if b = 0 then .ok rest else skipText rest

/-- Leave out `n` bytes. -/
def skip (n : Nat) (bytes : Bytes) : Except StreamFault Bytes :=
  if bytes.length < n then .error .unexpectedEnd else .ok (bytes.drop n)

/-- Leave out further fields, whose length is told in two bytes. -/
def skipExtra : Bytes → Except StreamFault Bytes
  | low :: high :: rest => skip (low.toNat + 256 * high.toNat) rest
  | _ => .error .unexpectedEnd

/-- Leave out the header of a compressed file. Its checksum, if there is one, consists of the lower
half of that of all bytes before it. -/
def skipHeader (bytes : Bytes) : Except StreamFault Bytes := do
  match bytes with
  | 0x1F :: 0x8B :: 8 :: flags :: rest =>
    let has (i : Nat) : Bool := flags.toNat.testBit i
    if has 5 || has 6 || has 7 then throw .notGzip
    let r ← skip 6 rest
    let r ← if has 2 then skipExtra r else pure r
    let r ← if has 3 then skipText r else pure r
    let r ← if has 4 then skipText r else pure r
    if has 1 then
      let sum := Checksum.ofBytes (bytes.take (bytes.length - r.length))
      match r with
      | low :: high :: r =>
        if low.toNat + 256 * high.toNat = sum.toNat % 0x10000 then return r else throw .checksum
      | _ => throw .unexpectedEnd
    else return r
  | bytes => if bytes.length < 4 then throw .unexpectedEnd else throw .notGzip

/-- A number of four bytes, the lowest first. -/
def number (bytes : Bytes) : Nat :=
  bytes.foldr (fun b n => b.toNat + 256 * n) 0

/-- What a compressed file yields. -/
def expand (bytes : Bytes) : Stream :=
  match skipHeader bytes with
  | .error fault => ⟨[], some fault⟩
  | .ok data =>
    let inflated := Deflate.inflate (bytes.length - data.length) data
    match inflated.outcome with
    | .error fault => ⟨inflated.output, some fault⟩
    | .ok left =>
      let trailer := (data.drop (data.length - left)).take 8
      if trailer.length < 8 then ⟨inflated.output, some .unexpectedEnd⟩
      else if number (trailer.take 4) = (Checksum.ofBytes inflated.output).toNat ∧
          number (trailer.drop 4) = inflated.output.length % 0x100000000 then
        ⟨inflated.output, none⟩
      else ⟨inflated.output, some .checksum⟩

end Filmography.Gzip
