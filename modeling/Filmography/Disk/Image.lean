import Filmography.Catalog.Cells
import Filmography.Disk.Basic
import Filmography.Number.Integer

/-!
# Databases as files

A database is kept in a file of lines. The first line is a heading, the second one has the version
of the database, and every other line is a row: the name of its table and its cells, with tabs
between them. A cell with text starts with a quote, and what would end a cell or a line is escaped
in it.

A program that takes the file for a data file finds a header and at least one line below it, which
is no record.
-/

namespace Filmography

namespace Cell

/-- A character of a text in a cell. -/
def escaped (c : Char) : Text :=
  if c = '\\' then ['\\', '\\']
  else if c = '\t' then ['\\', 't']
  else if c = '\n' then ['\\', 'n']
  else [c]

/-- The text for which escaped characters stand. -/
def unescape : Text → Text
  | [] => []
  | '\\' :: 't' :: t => '\t' :: unescape t
  | '\\' :: 'n' :: t => '\n' :: unescape t
  | '\\' :: '\\' :: t => '\\' :: unescape t
  | c :: t => c :: unescape t

/-- A cell in a line. -/
def write : Cell → Text
  | null => []
  | integer n => Text.ofInt n
  | text t => '"' :: t.flatMap escaped

/-- Read a cell in a line. -/
def read? : Text → Option Cell
  | [] => some null
  | '"' :: t => some (text (unescape t))
  | t => (Integer.Format.signed64.parse t).toOption.map integer

end Cell

namespace Database

/-- The first line of a database. -/
def heading : Text := "Filmography database".toList

/-- What the line with the version of a database starts with. -/
def versionLabel : Text := "version ".toList

/-- The line for a row of a table. -/
def rowLine (table : TableName) (cells : List Cell) : Text :=
  Text.joined ['\t'] (table.text :: cells.map Cell.write)

/-- The lines of a database. -/
def lines (db : Database) : List Text :=
  heading :: (versionLabel ++ Text.ofInt db.version) ::
    TableName.all.flatMap fun table => (db.catalog.cells table).map (rowLine table)

/-- A database as a file. -/
def write (db : Database) : Bytes :=
  Utf8.encode (db.lines.flatMap fun l => l ++ ['\n'])

/-- The catalogue with the row of a line. -/
def readRow (c : Catalog) (line : Text) : Option Catalog :=
  match Text.splitOn '\t' line with
  | [] => none
  | table :: cells => do c.putCells (← cells.mapM Cell.read?) (← TableName.ofText? table)

/-- Read the lines of a database. -/
def ofLines? : List Text → Option Database
  | first :: second :: rows =>
    if first = heading ∧ versionLabel.isPrefixOf second then do
      let version ← (Integer.Format.signed32.parse (second.drop versionLabel.length)).toOption
      let catalog ← rows.foldlM readRow Catalog.empty
      return ⟨catalog, version⟩
    else none
  | _ => none

/-- Read a file as a database. -/
def read? (content : Bytes) : Option Database := do
  let t ← (Utf8.decode content).toOption
  ofLines? (Text.splitOn '\n' t).dropLast

end Database

/-- What there is at a place where there is a file with some content. -/
def Node.ofFile (content : Bytes) : Node :=
  match Database.read? content with
  | some db => .database db
  | none => .file content

end Filmography
