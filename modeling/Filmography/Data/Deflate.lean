import Filmography.Data.Stream

/-!
# Deflated data

Deflated data is a sequence of blocks, read bit by bit from the low end of each byte. A block is
stored as it is, or consists of symbols in a prefix code that is fixed or described in the block. A
symbol is a byte, the end of the block, or the length of a piece of the output to be repeated, whose
distance follows in a second code.

A symbol takes at least one bit, and so does a block. That bounds both loops by the count of bits.

What is read is delivered in pieces and what is put out is handed over in pieces, and output that
has not been handed over when the data turns out to be corrupt is lost.

* `Code` is a prefix code, given by the length of the code of every symbol;
* `Deflate.inflate` reads deflated data.
-/

namespace Filmography

/-! ### Reading bits -/

namespace Deflate

/-- How many bytes are delivered at a time. -/
def pieceSize : Nat := 0x8000

/-- How many bytes can be put out before they are handed over. -/
def window : Nat := 0x8000

/-- The least count of bytes that are handed over because the window is full. -/
def leastHandedOver : Nat := 0x2000

/-- What is left to read, and what has been put out. -/
structure State where
  /-- The bits that are left. -/
  bits : List Bool
  /-- How many of them have been delivered. -/
  delivered : Nat
  /-- The bytes put out. -/
  output : Array UInt8 := #[]
  /-- How many of them have been handed over. -/
  handedOver : Nat := 0

/-- Reading that may fail. What has been put out by then is kept. -/
abbrev Reader := ExceptT StreamFault (StateM State)

/-- The bits of a byte, the lowest first. -/
def bitsOf (b : UInt8) : List Bool :=
  (List.range 8).map fun i => b.toNat.testBit i

/-- The next bit. Before more is delivered, all output is handed over. -/
def bit : Reader Nat := do
  let s ← get
  match s.bits, s.delivered with
  | [], _ => throw .incomplete
  | b :: rest, 0 =>
    set { s with bits := rest, delivered := 8 * pieceSize - 1, handedOver := s.output.size }
    return b.toNat
  | b :: rest, n + 1 =>
    set { s with bits := rest, delivered := n }
    return b.toNat

/-- A number of `n` bits, the lowest first. -/
def number : Nat → Reader Nat
  | 0 => return 0
  | n + 1 => do
    let low ← bit
    let high ← number n
    return low + 2 * high

/-- Leave out what is left of the current byte. -/
def align : Reader Unit :=
  modify fun s =>
    let left := s.bits.length % 8
    { s with bits := s.bits.drop left, delivered := s.delivered - left }

/-- Put out a byte. If the window is full, what is in it is handed over first. -/
def put (b : UInt8) : Reader Unit :=
  modify fun s =>
    let size := s.output.size
    let isFull := size % window = 0 ∧ s.handedOver + leastHandedOver ≤ size
    { s with output := s.output.push b, handedOver := if isFull then size else s.handedOver }

end Deflate

/-! ### Prefix codes -/

/-- A prefix code in which shorter codes come before longer ones and codes of the same length are in
the order of their symbols. -/
structure Code where
  /-- How many codes there are of each length, from one bit on. -/
  counts : List Nat
  /-- The symbols in the order of their codes. -/
  symbols : Array Nat

namespace Code

/-- The greatest length of a code. -/
def maxLength : Nat := 15

/-- The code in which every symbol has a code of the given length; zero means that it has none. -/
def ofLengths (lengths : List Nat) : Code :=
  let sizes := (List.range maxLength).map (· + 1)
  { counts := sizes.map fun n => lengths.count n
    symbols := (sizes.flatMap fun n =>
      lengths.zipIdx.filterMap fun (length, symbol) =>
        if length = n then some symbol else none).toArray }

/-- Whether every sequence of bits starts with a code. -/
def isComplete (c : Code) : Bool :=
  c.counts.zipIdx.foldl (fun sum (n, i) => sum + n <<< (maxLength - 1 - i)) 0 == 1 <<< maxLength

/-- Whether a code for bytes and lengths or for distances can be used. If it has no symbol, or a
single one whose code is one bit, it need not be complete. -/
def isUsable (c : Code) : Bool :=
  c.isComplete || (c.symbols.size ≤ 1 && c.symbols.size == c.counts.headD 0)

/-- Read a symbol, given the counts of the lengths that are left, the code read so far, the first
code of its length and the place of that code's symbol. -/
def readFrom (symbols : Array Nat) :
    List Nat → (code first place : Nat) → Deflate.Reader Nat
  | [], _, _, _ => throw .corrupt
  | n :: counts, code, first, place => do
    let code := 2 * code + (← Deflate.bit)
    if code < first + n then
      match symbols[place + (code - first)]? with
      | some symbol => return symbol
      | none => throw .corrupt
    else readFrom symbols counts code (2 * (first + n)) (place + n)

/-- Read a symbol. -/
def read (c : Code) : Deflate.Reader Nat :=
  readFrom c.symbols c.counts 0 0 0

end Code

namespace Deflate

/-! ### Blocks of symbols -/

/-- The symbol that ends a block. -/
def endOfBlock : Nat := 256

/-- The lengths of repeated pieces: the least length for a symbol and the count of bits that are
added to it. -/
def lengthTable : Array (Nat × Nat) := #[
  (3, 0), (4, 0), (5, 0), (6, 0), (7, 0), (8, 0), (9, 0), (10, 0), (11, 1), (13, 1), (15, 1),
  (17, 1), (19, 2), (23, 2), (27, 2), (31, 2), (35, 3), (43, 3), (51, 3), (59, 3), (67, 4),
  (83, 4), (99, 4), (115, 4), (131, 5), (163, 5), (195, 5), (227, 5), (258, 0)]

/-- The distances of repeated pieces: the least distance for a symbol and the count of bits that are
added to it. -/
def distanceTable : Array (Nat × Nat) := #[
  (1, 0), (2, 0), (3, 0), (4, 0), (5, 1), (7, 1), (9, 2), (13, 2), (17, 3), (25, 3), (33, 4),
  (49, 4), (65, 5), (97, 5), (129, 6), (193, 6), (257, 7), (385, 7), (513, 8), (769, 8), (1025, 9),
  (1537, 9), (2049, 10), (3073, 10), (4097, 11), (6145, 11), (8193, 12), (12289, 12), (16385, 13),
  (24577, 13)]

/-- A number that a symbol and some bits stand for. -/
def extended (table : Array (Nat × Nat)) (symbol : Nat) : Reader Nat :=
  match table[symbol]? with
  | none => throw .corrupt
  | some (least, extra) => (least + ·) <$> number extra

/-- Repeat the byte that was put out `distance` bytes ago, `length` times. What was before all
output counts as zero bytes. -/
def repeatBytes (distance : Nat) : Nat → Reader Unit
  | 0 => return
  | length + 1 => do
    let output := (← get).output
    put (if distance ≤ output.size then output.getD (output.size - distance) 0 else 0)
    repeatBytes distance length

/-- Read symbols up to the end of a block, of which there are at most `fuel`. -/
def symbols (literals distances : Code) : (fuel : Nat) → Reader Unit
  | 0 => throw .corrupt
  | fuel + 1 => do
    let symbol ← literals.read
    if symbol < endOfBlock then
      put (UInt8.ofNat symbol)
      symbols literals distances fuel
    else if symbol = endOfBlock then return
    else
      let length ← extended lengthTable (symbol - endOfBlock - 1)
      let distance ← extended distanceTable (← distances.read)
      repeatBytes distance length
      symbols literals distances fuel

/-! ### The codes of a block -/

/-- The code for bytes and lengths where none is described. -/
def fixedLiterals : Code :=
  .ofLengths (List.replicate 144 8 ++ List.replicate 112 9 ++ List.replicate 24 7 ++
    List.replicate 8 8)

/-- The code for distances where none is described. -/
def fixedDistances : Code :=
  .ofLengths (List.replicate 32 5)

/-- The order in which the lengths of the codes for lengths are told. -/
def lengthOrder : List Nat :=
  [16, 17, 18, 0, 8, 7, 9, 6, 10, 5, 11, 4, 12, 3, 13, 2, 14, 1, 15]

/-- A list of numbers of three bits. -/
def threeBitNumbers : Nat → Reader (List Nat)
  | 0 => return []
  | n + 1 => do
    let first ← number 3
    let rest ← threeBitNumbers n
    return first :: rest

/-- Read `count` lengths of codes after those in `known`, the last of which comes first. A symbol
stands for a length, or for a length that is repeated. -/
def codeLengths (code : Code) (count : Nat) (known : List Nat) : (fuel : Nat) → Reader (List Nat)
  | 0 => throw .corrupt
  | fuel + 1 => do
    if known.length = count then return known.reverse
    if count < known.length then throw .corrupt
    let symbol ← code.read
    if symbol < 16 then codeLengths code count (symbol :: known) fuel
    else if symbol = 16 then
      match known with
      | [] => throw .corrupt
      | last :: _ =>
        let times ← (3 + ·) <$> number 2
        codeLengths code count (List.replicate times last ++ known) fuel
    else
      let times ← if symbol = 17 then (3 + ·) <$> number 3 else (11 + ·) <$> number 7
      codeLengths code count (List.replicate times 0 ++ known) fuel

/-- Read the description of the two codes of a block. -/
def describedCodes : Reader (Code × Code) := do
  let literals ← (257 + ·) <$> number 5
  let distances ← (1 + ·) <$> number 5
  let told ← (4 + ·) <$> number 4
  if 286 < literals ∨ 30 < distances then throw .corrupt
  let lengths := lengthOrder.zip (← threeBitNumbers told)
  let code := Code.ofLengths ((List.range 19).map fun symbol =>
    ((lengths.find? fun p => p.1 = symbol).map (·.2)).getD 0)
  if !code.isComplete then throw .corrupt
  let all ← codeLengths code (literals + distances) [] (literals + distances + 1)
  let literalCode := Code.ofLengths (all.take literals)
  let distanceCode := Code.ofLengths (all.drop literals)
  if !literalCode.isUsable || !distanceCode.isUsable then throw .corrupt
  return (literalCode, distanceCode)

/-! ### Blocks -/

/-- Put out the next bytes as they are. -/
def storedBytes : Nat → Reader Unit
  | 0 => return
  | n + 1 => do
    put (UInt8.ofNat (← number 8))
    storedBytes n

/-- Read a block that is stored as it is. Its length is told twice, the second time inverted. -/
def stored : Reader Unit := do
  align
  let length ← number 16
  let inverted ← number 16
  if length + inverted ≠ 0xFFFF then throw .corrupt
  storedBytes length

/-- Read a block, given how many symbols it has at most. -/
def block (fuel : Nat) : Reader Unit := do
  match ← number 2 with
  | 0 => stored
  | 1 => symbols fixedLiterals fixedDistances fuel
  | 2 =>
    let (literals, distances) ← describedCodes
    symbols literals distances fuel
  | _ => throw .corrupt

/-- Read blocks up to the one that is marked as the last. -/
def blocks : (fuel : Nat) → Reader Unit
  | 0 => throw .corrupt
  | fuel + 1 => do
    let last ← bit
    block (fuel + 1)
    if last = 1 then return else blocks fuel

/-- What deflated data yields. -/
structure Inflated where
  /-- The bytes put out. -/
  output : Bytes
  /-- The count of bytes that follow the data, or what is wrong with it. -/
  outcome : Except StreamFault Nat

/-- Read deflated data that starts `offset` bytes after the beginning of a file. -/
def inflate (offset : Nat) (bytes : Bytes) : Inflated :=
  let bits := bytes.flatMap bitsOf
  let delivered := 8 * (pieceSize - offset % pieceSize)
  match (blocks (bits.length + 1)).run.run { bits, delivered } with
  | (.ok (), s) => ⟨s.output.toList, .ok (s.bits.length / 8)⟩
  | (.error .corrupt, s) => ⟨s.output.toList.take s.handedOver, .error .corrupt⟩
  | (.error fault, s) => ⟨s.output.toList, .error fault⟩

end Deflate

end Filmography
