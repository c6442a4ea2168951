import Filmography.Catalog.Load
import Filmography.Data.Gzip
import Filmography.Disk.Image

/-!
# Paths

A path leads to a place from the root of a disk, if it starts with a slash, or else from the current
directory. Two dots lead back to the directory that holds the current one, and a single dot leads
nowhere. All of a path but its last name must be directories, and so must the last name if a slash
follows it.
-/

namespace Filmography

/-- A path, as it is written. -/
abbrev Path := Text

namespace Path

/-- The greatest count of bytes of a name. -/
def nameLimit : Nat := 255

/-- The greatest count of bytes of a path. -/
def limit : Nat := 4095

/-- What keeps a path, as it is written, from leading anywhere. -/
def fault? (p : Path) : Option SystemFault :=
  if '\x00' ∈ p then some .nullCharacter
  else if limit < Utf8.size p then some .nameTooLong
  else none

/-- A path to a name in the directory that a path leads to. -/
def join (directory : Path) (name : Text) : Path :=
  if directory = [] ∨ directory.getLast? = some '/' then directory ++ name
  else directory ++ '/' :: name

/-- Whether a path starts from the root. -/
def isAbsolute (p : Path) : Bool :=
  p.head? == some '/'

/-- The names in a path. -/
def names (p : Path) : List Text :=
  (Text.splitOn '/' p).filter fun name => name ≠ []

/-- Whether a piece between two slashes leads nowhere. -/
def isIdle (piece : Text) : Bool :=
  piece == [] || piece == ['.']

/-- Pieces of a path without those at the end that lead nowhere. -/
def trimmed (pieces : List Text) : List Text :=
  (pieces.reverse.dropWhile isIdle).reverse

/-- The path to the directory that holds what a path leads to, in the way in which the path is
written. It is empty for a single name, and the root and the empty path have none. -/
def parent? (p : Path) : Option Path :=
  let pieces := Text.splitOn '/' p
  let first := pieces.headD []
  match trimmed pieces.tail with
  | [] => if first = [] then none else some []
  | names =>
    match first, trimmed names.dropLast with
    | [], [] => some ['/']
    | first, names => some (Text.joined ['/'] (first :: names))

/-- The place to which a name leads from a place. -/
def step (place : Place) (name : Text) : Place :=
  if isIdle name then place
  else if name = ['.', '.'] then place.dropLast
  else place ++ [name]

/-- The place from which a path starts. -/
def start (current : Place) (p : Path) : Place :=
  if p.isAbsolute then [] else current

/-- The places to which the names of a path lead, one after the other, from the root. -/
def placesAlong (current : Place) (p : Path) : List Place :=
  let start := p.start current
  let along (reached : List Place × Place) (name : Text) : List Place × Place :=
    let next := step reached.2 name
    (reached.1 ++ [next], next)
  let prefixes := (List.range (start.length + 1)).map fun n => start.take n
  (prefixes ++ (p.names.foldl along ([], start)).1).filter fun place => place ≠ []

/-- The place to which a path leads if all names in it but the last are directories. -/
def place (current : Place) (p : Path) : Place :=
  p.names.foldl step (p.start current)

end Path

namespace Disk

/-- Follow names from a place. -/
def follow (d : Disk) (place : Place) : List Text → Except SystemFault Place
  | [] => .ok place
  | name :: rest =>
    let next := Path.step place name
    if Path.nameLimit < Utf8.size name then .error .nameTooLong
    else if rest = [] then .ok next
    else
      match d.node? next with
      | none => .error .notFound
      | some .directory => follow d next rest
      | some _ => .error .notDirectory

/-- The place that a path leads to, whether there is anything at it or not. -/
def locate (d : Disk) (current : Place) (p : Path) : Except SystemFault Place :=
  match p.fault? with
  | some fault => .error fault
  | none =>
    if p = [] then .error .notFound else d.follow (p.start current) (Text.splitOn '/' p)

/-- What a path leads to. -/
def lookUp (d : Disk) (current : Place) (p : Path) : Except SystemFault Node := do
  match d.node? (← d.locate current p) with
  | none => throw .notFound
  | some n => return n

/-- Whether a path leads to anything. -/
def exists? (d : Disk) (current : Place) (p : Path) : Bool :=
  (d.lookUp current p).isOk

/-- Make the directories that names lead to from a place, where there are none. Those that are made
before a fault stay. Until one is `made`, it shows that something on the way is not a directory;
after that only that a name is taken. -/
def makeDirectoriesFrom (d : Disk) (place : Place) (made : Bool) :
    List Text → Disk × Except SystemFault Unit
  | [] => (d, .ok ())
  | name :: rest =>
    let next := Path.step place name
    if Path.nameLimit < Utf8.size name then (d, .error .nameTooLong)
    else
      match d.node? next with
      | none => makeDirectoriesFrom (d.put next .directory) next true rest
      | some .directory => makeDirectoriesFrom d next made rest
      | some _ => (d, .error (if made || rest.isEmpty then .fileExists else .notDirectory))

/-- Make the directory that a path leads to, and those that hold it, where there are none. -/
def makeDirectories (d : Disk) (current : Place) (p : Path) : Disk × Except SystemFault Unit :=
  match p.fault? with
  | some fault => (d, .error fault)
  | none => d.makeDirectoriesFrom (p.start current) false p.names

/-! ### Data files -/

/-- What can be read at a node. A directory can be opened, but not read, and a database is a file
like any other. -/
def read : Node → Stream
  | .directory => ⟨[], some (.system .isDirectory)⟩
  | .file content => ⟨content, none⟩
  | .database db => ⟨db.write, none⟩

/-- What a compressed file at a node yields. -/
def readCompressed : Node → Stream
  | .directory => ⟨[], some (.system .isDirectory)⟩
  | .file content => Gzip.expand content
  | .database db => Gzip.expand db.write

/-- A data file in the directory that a path leads to. One that is not compressed is preferred, also
in the report that there is neither. -/
def source (d : Disk) (current : Place) (directory : Path) (f : DataFile) : Source :=
  let plain := directory.join f.fileName
  let compressed := directory.join f.compressedName
  if d.exists? current plain then ⟨plain, (d.lookUp current plain).map read⟩
  else if d.exists? current compressed then
    ⟨compressed, (d.lookUp current compressed).map readCompressed⟩
  else ⟨plain, (d.lookUp current plain).map read⟩

end Disk

end Filmography
