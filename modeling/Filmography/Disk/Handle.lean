import Filmography.Disk.Address
import Filmography.Search.Resolve

/-!
# Opening and creating databases

A handle stands for a database that was opened or created. It remembers where the database is; its
content stays on the disk, so that all handles on a database see the same.

Only databases with the version of this format can be opened. Creating a database makes the
directories that lead to it and removes a file to which the path leads. A path with a slash at its
end does not lead to a file, but the database goes to the same place as without it; so a database
that is there already stays as it is.

Opening a database changes nothing that there is. But its path must lead to a file, and the address
that it is may lead elsewhere; if nothing is there, an empty file is made.
-/

namespace Filmography

/-- An opened database. -/
structure Handle where
  /-- The path by which it was opened. -/
  path : Path
  /-- Where it is. -/
  place : Place
  /-- Whether names may be compared by similarity. -/
  fuzzy : Bool
deriving DecidableEq, Repr

namespace Database

/-- The version of the format. -/
def currentVersion : Int := 1

/-- A new database. -/
def new : Database := ⟨.empty, currentVersion⟩

/-- A signed number of 32 bits as an unsigned one of 64 bits, with its sign extended. -/
def extended (version : Int) : UInt64 :=
  UInt64.ofInt version

end Database

namespace Disk

/-- An error about the file that a path leads to. -/
def fault (p : Path) (f : SystemFault) : Error :=
  .file p (.system f)

/-- The place of a database that is kept in memory. No path leads to it. -/
def memoryPlace : Place := [[]]

/-- The greatest count of bytes of the path from the root to a database, or to a directory on the
way to it. -/
def placeLimit : Nat := 511

/-- What is added to the path to a database for the journal of its changes. -/
def journalSuffix : Text := "-journal".toList

/-- The count of bytes of the path from the root to a place. -/
def placeSize (place : Place) : Nat :=
  place.foldl (fun n name => n + (Utf8.size name + 1)) 0

/-- Whether a database at a place can have a journal. -/
def hasRoomForJournal (place : Place) : Bool :=
  Utf8.size (place.getLastD [] ++ journalSuffix) ≤ Path.nameLimit

/-- Whether a database can be accessed at a place to which a path leads. -/
def isReachable (d : Disk) (current : Place) (path : Path) (access : Access) : Bool :=
  let place := path.place current
  let fits :=
    ((path.placesAlong current).all fun place => placeSize place ≤ placeLimit) &&
      place.all (fun name => Utf8.size name ≤ Path.nameLimit) &&
      placeSize place + Utf8.size journalSuffix ≤ placeLimit + 1
  fits &&
    match d.node? place.dropLast, d.node? place with
    | some .directory, none => access == .create
    | some .directory, some .directory => false
    | some .directory, some _ => true
    | _, _ => false

/-- The place of the database with an address, and how it is accessed. -/
def reach (d : Disk) (current : Place) (p : Path) : Except DatabaseFault (Place × Access) := do
  if '\x00' ∈ p then throw (.nullCharacter (Utf8.size (p.takeWhile (· ≠ '\x00'))))
  let a ← (Address.ofText p).mapError .address
  if a.access = .memory then return (memoryPlace, a.access)
  if !d.isReachable current a.path a.access then throw (.cannotOpen (some p))
  return (a.path.place current, a.access)

/-- Make the directories that lead to a new database, and remove the file to which its path leads.
What was made before an error stays. -/
def clearWay (d : Disk) (current : Place) (p : Path) : Disk × Except Error Unit :=
  let (d, made) : Disk × Except Error Unit := match p.parent? with
    | none | some [] => (d, .ok ())
    | some parent =>
      let (d, made) := d.makeDirectories current parent
      (d, made.mapError (fault parent))
  match made, d.locate current p with
  | .error e, _ => (d, .error e)
  | .ok (), .error _ => (d, .ok ())
  | .ok (), .ok place =>
    match d.node? place with
    | none => (d, .ok ())
    | some .directory => (d, .error (fault p .isDirectory))
    | some _ => (d.remove place, .ok ())

/-- Put a database with the current version where the way to it is clear. A database that is there
keeps its content. -/
def establish (d : Disk) (current : Place) (p : Path) (fuzzy : Bool) :
    Disk × Except Error Handle :=
  match d.reach current p with
  | .error f => (d, .error (.database f))
  | .ok (place, access) =>
    let handle : Handle := ⟨p, place, fuzzy⟩
    if access = .memory then (d.put place (.database .new), .ok handle)
    else
      match d.node? place with
      | some (.file (_ :: _)) => (d, .error (.database .notADatabase))
      | found? =>
        if access = .readOnly then (d, .error (.database .readOnly))
        else if !hasRoomForJournal place then
          (if found?.isNone then d.put place (.file []) else d,
            .error (.database (.cannotOpen none)))
        else
          let catalog := match found? with
            | some (.database db) => db.catalog
            | _ => .empty
          (d.put place (.database ⟨catalog, Database.currentVersion⟩), .ok handle)

/-- Create a database. -/
def createDatabase (d : Disk) (current : Place) (p : Path) (fuzzy : Bool) :
    Disk × Except Error Handle :=
  match d.clearWay current p with
  | (d, .error e) => (d, .error e)
  | (d, .ok ()) => d.establish current p fuzzy

/-- Open a database. An empty file is a database of version zero, and so is a database in memory. -/
def openDatabase (d : Disk) (current : Place) (p : Path) (fuzzy : Bool) : Except Error Handle := do
  let mismatch (version : Int) : Error :=
    .versionMismatch (Database.extended Database.currentVersion) (Database.extended version)
  match d.lookUp current p with
  | .error _ | .ok .directory => throw (.file p .noDatabase)
  | .ok _ =>
    let (place, access) ← (d.reach current p).mapError .database
    if access = .memory then throw (mismatch 0)
    match d.node? place with
    | some (.file (_ :: _)) => throw (.database .notADatabase)
    | some (.database db) =>
      if db.version = Database.currentVersion then return ⟨p, place, fuzzy⟩
      else throw (mismatch db.version)
    | _ => throw (mismatch 0)

/-- The disk after a database was opened. Where its address leads there is an empty file then, if
there was nothing. -/
def touch (d : Disk) (current : Place) (p : Path) : Disk :=
  match d.lookUp current p, d.reach current p with
  | .error _, _ | .ok .directory, _ | .ok _, .error _ => d
  | .ok _, .ok (place, access) =>
    if access = .memory ∨ (d.node? place).isSome then d else d.put place (.file [])

/-- Open the database of a handle once more. -/
def reopen (d : Disk) (current : Place) (h : Handle) : Except Error Handle :=
  d.openDatabase current h.path h.fuzzy

/-- The disk with the database of a handle changed. -/
def update (d : Disk) (h : Handle) (f : Database → Database) : Disk :=
  match d.database? h.place with
  | some db => d.put h.place (.database (f db))
  | none => d

/-- What a search of the database of a handle goes through. -/
def store (d : Disk) (h : Handle) (engine : Engine := .indexed) : Except Error Store :=
  match d.database? h.place with
  | some db => .ok ⟨db.catalog, h.fuzzy, engine⟩
  | none => .error (.database .notADatabase)

/-- Load the data files in the directory that a path leads to into the database of a handle. -/
def load (d : Disk) (current : Place) (h : Handle) (directory : Path) :
    Except Error (Disk × Loading) := do
  let s ← d.store h
  let loading := s.catalog.load (d.source current directory)
  return (d.update h fun db => { db with catalog := loading.catalog }, loading)

end Disk

end Filmography
