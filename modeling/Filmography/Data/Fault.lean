import Filmography.Number.Integer

/-!
# Faults in data files

What can be wrong with a data file, and how it is reported. A fault in a row comes with the
position at which reading of that row began.
-/

namespace Filmography

/-- Where a row of a data file begins. -/
structure Position where
  /-- The number of rows before it, header included. -/
  record : Nat
  /-- The line, counted from one. -/
  line : Nat
  /-- The offset of its first byte. -/
  byte : Nat
deriving DecidableEq, Repr

/-- What is wrong with the fields of a row. -/
inductive FieldFault where
  /-- The header names no column for a field. -/
  | missing (field : String)
  /-- The header names two columns for a field. -/
  | duplicate (field : String)
  /-- There are too few columns, where the header cannot be read. -/
  | tooFew (found : Nat) (record : String) (expected : Nat)
  /-- An identifier is zero. -/
  | reservedAtom
  /-- A column holds no integer that fits. -/
  | integer (column : Nat) (fault : IntegerFault)
deriving DecidableEq, Repr

/-- The wording of a fault in a field. -/
def FieldFault.message : FieldFault → String
  | .missing field => s!"missing field `{field}`"
  | .duplicate field => s!"duplicate field `{field}`"
  | .tooFew found record expected =>
    s!"invalid length {found}, expected struct {record} with {expected} elements"
  | .reservedAtom => "atom identifiers must be non-zero"
  | .integer column fault =>
    let why := fault.message
    s!"field {column}: {why}"

/-- What the operating system says about a file that cannot be used. -/
inductive SystemFault where
  /-- There is no such file. -/
  | notFound
  /-- There is a file already. -/
  | fileExists
  /-- Something on the way to the file is not a directory. -/
  | notDirectory
  /-- The file is a directory. -/
  | isDirectory
  /-- A name, or the path as a whole, is too long. -/
  | nameTooLong
  /-- There is a null character in the path. -/
  | nullCharacter
deriving DecidableEq, Repr

/-- The wording of a fault of the operating system. -/
def SystemFault.message : SystemFault → String
  | .notFound => "No such file or directory (os error 2)"
  | .fileExists => "File exists (os error 17)"
  | .notDirectory => "Not a directory (os error 20)"
  | .isDirectory => "Is a directory (os error 21)"
  | .nameTooLong => "File name too long (os error 36)"
  | .nullCharacter => "file name contained an unexpected NUL byte"

/-- Why the bytes of a file end before the file does. -/
inductive StreamFault where
  /-- What comes before or after compressed data breaks off. -/
  | unexpectedEnd
  /-- Compressed data breaks off. -/
  | incomplete
  /-- Compressed data is followed by another checksum or length. -/
  | checksum
  /-- Compressed data makes no sense. -/
  | corrupt
  /-- The file does not start like compressed data. -/
  | notGzip
  /-- The file cannot be read. -/
  | system (fault : SystemFault)
deriving DecidableEq, Repr

/-- The wording of a fault of a stream. -/
def StreamFault.message : StreamFault → String
  | .unexpectedEnd => "unexpected end of file"
  | .incomplete => "incomplete deflate stream"
  | .checksum => "corrupt gzip stream does not have a matching checksum"
  | .corrupt => "corrupt deflate stream"
  | .notGzip => "invalid gzip header"
  | .system fault => fault.message

/-- What is wrong with a data file. -/
inductive DataFault where
  /-- A row does not make a record. -/
  | fields (start : Position) (fault : FieldFault)
  /-- A row has another number of fields than the header. -/
  | fieldCount (start : Position) (found expected : Nat)
  /-- A field is not UTF-8 from a certain byte on. -/
  | encoding (start : Position) (field index : Nat)
  /-- The bytes end before the file does. -/
  | stream (fault : StreamFault)
deriving DecidableEq, Repr

/-- The wording of a fault of a data file. -/
def DataFault.message : DataFault → String
  | .fields p fault =>
    let record := p.record
    let line := p.line
    let byte := p.byte
    let why := fault.message
    s!"CSV deserialize error: record {record} (line: {line}, byte: {byte}): {why}"
  | .fieldCount p found expected =>
    let record := p.record
    let line := p.line
    let byte := p.byte
    s!"CSV error: record {record} (line: {line}, byte: {byte}): " ++
      s!"found record with {found} fields, but the previous record has {expected} fields"
  | .encoding p field index =>
    let record := p.record
    let line := p.line
    let byte := p.byte
    s!"CSV parse error: record {record} (line {line}, field: {field}, byte: {byte}): " ++
      s!"invalid utf-8: invalid UTF-8 in field {field} near byte index {index}"
  | .stream fault => fault.message

end Filmography
