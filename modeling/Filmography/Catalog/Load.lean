import Filmography.Catalog.DataFile
import Filmography.Error

/-!
# Loading

The data files are loaded one after the other, each of them in a transaction of its own. The records
of a file are written one at a time, as they are read, but nobody sees them before the transaction
is committed. The first fault rolls the transaction back and ends loading; what was loaded before
stays.

* `Transaction.insertStream` writes the records of a file up to the first fault;
* `Catalog.loadFile` commits what was written, or rolls it back;
* `Catalog.load` loads all files.
-/

namespace Filmography

/-- A data file as it is found: the path to it, and what can be read there. -/
structure Source where
  /-- The path. -/
  path : Text
  /-- What can be read. -/
  content : Except SystemFault Stream

/-- A data file that was loaded. -/
structure Loaded where
  /-- The file. -/
  file : DataFile
  /-- Where it was found. -/
  path : Text
  /-- The count of its records. -/
  count : Nat
deriving DecidableEq, Repr

/-- What has come of loading. -/
structure Loading where
  /-- The catalogue with all files that were loaded. -/
  catalog : Catalog
  /-- The files that were loaded, in order. -/
  loaded : List Loaded
  /-- Why loading ended early, if it did. -/
  error : Option Error

namespace Loading

/-- The count of records of a file. -/
def count (l : Loading) (f : DataFile) : Nat :=
  (l.loaded.filter fun d => d.file = f).foldl (fun n d => n + d.count) 0

/-- The count of all records. -/
def total (l : Loading) : Nat :=
  l.loaded.foldl (fun n d => n + d.count) 0

end Loading

/-! ### Transactions -/

/-- A transaction that writes records to a catalogue. -/
structure Transaction where
  /-- The catalogue as it was when the transaction started. -/
  start : Catalog
  /-- The catalogue with the records that were written. -/
  written : Catalog
  /-- The count of the records that were written. -/
  count : Nat

namespace Transaction

/-- A new transaction. -/
def on (c : Catalog) : Transaction := ⟨c, c, 0⟩

/-- Write a record of a data file. -/
def insert (t : Transaction) (f : DataFile) (r : f.schema.Record) : Transaction :=
  { t with written := t.written.put f r, count := t.count + 1 }

/-- What everybody sees once the transaction is committed. -/
def commit (t : Transaction) : Catalog := t.written

/-- What everybody sees if the transaction is given up. -/
def rollback (t : Transaction) : Catalog := t.start

/-- Write the records of rows in order, each as soon as it is read, until a row is at fault. -/
def insertRows (f : DataFile) (header : Delimited.Row) :
    List Delimited.Row → Transaction → Transaction × Option DataFault
  | [], t => (t, none)
  | row :: rows, t =>
    match f.schema.readRow header row with
    | .error fault => (t, some fault)
    | .ok r => insertRows f header rows (t.insert f r)

/-- Write the records of a data file, until a row is at fault or the file breaks off. A file that
breaks off in its header has no records. -/
def insertStream (t : Transaction) (f : DataFile) (stream : Stream) :
    Transaction × Option DataFault :=
  match Delimited.rows stream with
  | [] => (t, none)
  | header :: rows =>
    match t.insertRows f header rows with
    | (t, some fault) => (t, some fault)
    | (t, none) => (t, stream.fault.map .stream)

end Transaction

/-! ### Files -/

namespace Catalog

/-- Load a data file in a transaction: the catalogue that everybody sees afterwards, and the count
of the records or why there are none. -/
def loadFile (c : Catalog) (f : DataFile) (source : Source) : Catalog × Except Error Nat :=
  match source.content with
  | .error fault => (c, .error (.file source.path (.system fault)))
  | .ok stream =>
    match (Transaction.on c).insertStream f stream with
    | (t, none) => (t.commit, .ok t.count)
    | (t, some fault) => (t.rollback, .error (.data source.path fault))

/-- Load data files in order. -/
def loadFiles (sources : DataFile → Source) : List DataFile → Catalog → Loading
  | [], c => ⟨c, [], none⟩
  | f :: fs, c =>
    match c.loadFile f (sources f) with
    | (c, .error e) => ⟨c, [], some e⟩
    | (c, .ok n) =>
      let later := loadFiles sources fs c
      { later with loaded := ⟨f, (sources f).path, n⟩ :: later.loaded }

/-- Load all data files. -/
def load (c : Catalog) (sources : DataFile → Source) : Loading :=
  loadFiles sources DataFile.all c

end Catalog

end Filmography
