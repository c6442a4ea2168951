import Filmography.Data.Stream

/-!
# Delimited rows

A data file consists of rows of fields. A carriage return or a line feed ends a row, and tabs divide
it into fields; there is no quoting. Rows without anything in them do not count. A byte order mark
at the start of the file does not belong to the first field.

A row is reported by the position just after the end of the row before it, ahead of the empty rows
between them.
-/

namespace Filmography.Delimited

/-- A row as bytes. -/
structure Row where
  /-- Where the row before it ends. -/
  start : Position
  /-- The fields, of which there is at least one. -/
  fields : List Bytes
deriving DecidableEq, Repr

/-- What stands between two row ends. -/
structure Line where
  /-- The number of line feeds before it, plus one. -/
  line : Nat
  /-- The number of bytes before it. -/
  byte : Nat
  /-- Its bytes. -/
  content : Bytes
deriving DecidableEq, Repr

/-- The line feed, which ends a row and is counted. -/
def lineFeed : UInt8 := 10

/-- The carriage return, which ends a row. -/
def carriageReturn : UInt8 := 13

/-- The tab, which ends a field. -/
def tab : UInt8 := 9

/-- The byte order mark. -/
def byteOrderMark : Bytes := [0xEF, 0xBB, 0xBF]

/-- The rest of the current line, and the lines after it. -/
def linesFrom (line byte : Nat) : Bytes → Bytes × List Line
  | [] => ([], [])
  | b :: rest =>
    let next := if b = lineFeed then line + 1 else line
    let r := linesFrom next (byte + 1) rest
    if b = lineFeed ∨ b = carriageReturn then ([], ⟨next, byte + 1, r.1⟩ :: r.2)
    else (b :: r.1, r.2)

/-- The lines of a file. The last one is not ended by anything. -/
def lines (bytes : Bytes) : List Line :=
  let skipped := if byteOrderMark.isPrefixOf bytes then byteOrderMark.length else 0
  let r := linesFrom 1 skipped (bytes.drop skipped)
  ⟨1, 0, r.1⟩ :: r.2

/-- The fields of a line. -/
def fields : Bytes → List Bytes
  | [] => [[]]
  | b :: rest =>
    if b = tab then [] :: fields rest
    else
      match fields rest with
      | [] => [[b]]
      | first :: others => (b :: first) :: others

/-- The rows of some lines. `record` is the number of the first one, and `pending` the empty line
with which the lines between it and the row before it begin. -/
def rowsFrom (record : Nat) (pending : Option Line) : List Line → List Row
  | [] => []
  | l :: ls =>
    let start := pending.getD l
    if l.content = [] then rowsFrom record (some start) ls
    else ⟨⟨record, start.line, start.byte⟩, fields l.content⟩ :: rowsFrom (record + 1) none ls

/-- The rows that a stream yields. A last row that nothing ends counts if the stream does not break
off. -/
def rows (s : Stream) : List Row :=
  let ls := lines s.bytes
  rowsFrom 0 none (if s.fault.isSome then ls.dropLast else ls)

end Filmography.Delimited
