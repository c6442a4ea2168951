import Filmography.Atom
import Filmography.Data.Delimited

/-!
# Records

A record has a value for each of its fields, and a field has a name and a type. The first row of a
data file is its header, which says in which place each field stands: in any order, and among other
names, which are ignored. Every other row makes a record, or is at fault.

Faults in a row are found in this order: the number of its values, their encoding, then values that
cannot be read and repeated fields in the order of the header, then missing fields in the order of
the record. If the header cannot be read as text, the fields are taken to be in the order of the
record.

* `Values` is the type of records with given fields;
* `Schema.read` reads the records of a data file, and `Schema.write` writes them.
-/

namespace Filmography

/-- The type of a field. -/
inductive FieldType where
  /-- An atom. -/
  | atom
  /-- Any text. -/
  | text
  /-- An unsigned integer. -/
  | number
  /-- An unsigned integer that may be unknown, which any other text means. -/
  | optional
  /-- A truth value, written as an integer that is zero or not. -/
  | flag
deriving DecidableEq, Repr

/-- The values of a type. -/
abbrev FieldType.Value : FieldType → Type
  | atom => Atom
  | text => Text
  | number => UInt32
  | optional => Option UInt32
  | flag => Bool

/-- Read a value, in a given place of a row. -/
def FieldType.read (type : FieldType) (place : Nat) (t : Text) : Except FieldFault type.Value :=
  let word : Except FieldFault UInt32 :=
    ((fun n => UInt32.ofNat n.toNat) <$> Integer.Format.unsigned32.parsePrefixed t).mapError
      (FieldFault.integer place)
  match type with
  | atom => do
    match Atom.ofWord? (← word) with
    | some a => return a
    | none => throw .reservedAtom
  | text => .ok t
  | number => word
  | optional => .ok word.toOption
  | flag =>
    ((· != 0) <$> Integer.Format.signed32.parsePrefixed t).mapError (FieldFault.integer place)

/-- Write a value. -/
def FieldType.write : (type : FieldType) → type.Value → Text
  | atom, a => Text.ofNat a.val.toNat
  | text, t => t
  | number, n => Text.ofNat n.toNat
  | optional, none => []
  | optional, some n => Text.ofNat n.toNat
  | flag, b => if b then ['1'] else ['0']

/-- A field of a record. -/
structure Field where
  /-- The name by which the header refers to it. -/
  name : String
  /-- The type of its values. -/
  type : FieldType
deriving DecidableEq, Repr

/-- A value for each of some fields. -/
abbrev Values : List Field → Type
  | [] => Unit
  | f :: fs => f.type.Value × Values fs

/-- What the records of a data file look like. -/
structure Schema where
  /-- What a record is called. -/
  name : String
  /-- The fields of a record. -/
  fields : List Field
deriving DecidableEq, Repr

namespace Values

/-! ### Reading by the order of the fields -/

/-- Read the values of fields from the texts of a row, the first of which stands in a given
place. -/
def ofTexts (s : Schema) (place : Nat) :
    (fields : List Field) → List Text → Except FieldFault (Values fields)
  | [], _ => .ok ()
  | _ :: _, [] => .error (.tooFew place s.name s.fields.length)
  | f :: fs, t :: ts => do
    let v ← f.type.read place t
    let vs ← ofTexts s (place + 1) fs ts
    return (v, vs)

/-! ### Reading by the names of the fields -/

/-- Find the first fault in the texts of a row, each with its name in the header. `seen` are the
names of the fields that have been found, and `place` is that of the first text. -/
def check (fields : List Field) (seen : List String) (place : Nat) :
    List (Text × Text) → Except FieldFault Unit
  | [] => .ok ()
  | (name, t) :: rest =>
    match fields.find? fun f => f.name.toList = name with
    | none => check fields seen (place + 1) rest
    | some f =>
      if f.name ∈ seen then .error (.duplicate f.name)
      else do
        let _ ← f.type.read place t
        check fields (f.name :: seen) (place + 1) rest

/-- Read the values of fields from the texts of a row, each with its name in the header. -/
def collect (row : List (Text × Text)) :
    (fields : List Field) → Except FieldFault (Values fields)
  | [] => .ok ()
  | f :: fs =>
    match row.zipIdx.find? fun entry => entry.1.1 = f.name.toList with
    | none => .error (.missing f.name)
    | some ((_, t), place) => do
      let v ← f.type.read place t
      let vs ← collect row fs
      return (v, vs)

/-- The texts of the values of fields. -/
def write : (fields : List Field) → Values fields → List Text
  | [], _ => []
  | f :: fs, (v, vs) => f.type.write v :: write fs vs

end Values

namespace Schema

/-- A record. -/
abbrev Record (s : Schema) : Type := Values s.fields

/-- Read a record from the texts of a row, given the header if that is text. -/
def readTexts (s : Schema) (header : Option (List Text)) (texts : List Text) :
    Except FieldFault s.Record :=
  match header with
  | none => Values.ofTexts s 0 s.fields texts
  | some names => do
    Values.check s.fields [] 0 (names.zip texts)
    Values.collect (names.zip texts) s.fields

/-- Read what stands in a row as text, the first of it in a given place. -/
def decodeTexts (start : Position) (place : Nat) : List Bytes → Except DataFault (List Text)
  | [] => .ok []
  | b :: bs =>
    match Utf8.decode b with
    | .error index => .error (.encoding start place index)
    | .ok t => (t :: ·) <$> decodeTexts start (place + 1) bs

/-- Read a record from a row, given the header. -/
def readRow (s : Schema) (header : Delimited.Row) (row : Delimited.Row) :
    Except DataFault s.Record :=
  if row.fields.length ≠ header.fields.length then
    .error (.fieldCount row.start row.fields.length header.fields.length)
  else do
    let texts ← decodeTexts row.start 0 row.fields
    let names := (decodeTexts header.start 0 header.fields).toOption
    (s.readTexts names texts).mapError (DataFault.fields row.start)

/-- Read the records of a data file. A file that breaks off in its header has none. -/
def read (s : Schema) (stream : Stream) : Except DataFault (List s.Record) :=
  match Delimited.rows stream with
  | [] => .ok []
  | header :: rows => do
    let records ← rows.mapM (s.readRow header)
    match stream.fault with
    | none => return records
    | some fault => throw (.stream fault)

/-! ### Writing -/

/-- The text of a row. -/
def rowText (texts : List Text) : Text :=
  Text.joined ['\t'] texts ++ ['\n']

/-- Records as a data file, under a header that names the fields in order. -/
def write (s : Schema) (records : List s.Record) : Bytes :=
  Utf8.encode (rowText (s.fields.map fun f => f.name.toList) ++
    records.flatMap fun r => rowText (Values.write s.fields r))

end Schema

end Filmography
