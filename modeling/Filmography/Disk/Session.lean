import Filmography.Catalog.Cells
import Filmography.Disk.Handle

/-!
# Sessions

In a session, callers create and open any number of databases on a disk, and use the connections
that they get in any order. A connection has a number, by which it is known from then on.

All connections to a file see what one of them writes to it. Creating a database removes the file to
which its path leads, but not from under the connections that have it open: they keep it, apart from
the disk, and show what is in it. They cannot write to it any more. A database in memory belongs to
the connection that created it.

To open the database of a connection once more is to open its path once more, so it may well be
another database by then.
-/

namespace Filmography

variable {ν : Type}

/-- Where the database of a connection is. -/
inductive Holding where
  /-- It is in the file at its place. -/
  | file (writable : Bool)
  /-- It is in a file that was removed, and stays as it is. -/
  | removed (db : Database)
  /-- It is in memory. -/
  | memory (db : Database)

/-- Where a database is that is accessed in some way, once it is opened. -/
def Holding.ofAccess : Access → Holding
  | .create | .existing => file true
  | .readOnly => file false
  | .memory => memory .new

/-- A connection to a database. -/
structure Connection where
  /-- How it was opened. -/
  handle : Handle
  /-- Where the database is. -/
  holding : Holding

namespace Connection

/-- The connection that comes with a handle. The address that its path is tells how the database is
accessed. -/
def ofHandle (h : Handle) : Connection :=
  ⟨h, .ofAccess (((Address.ofText h.path).toOption.map Address.access).getD .create)⟩

/-- The connection after files were removed from a disk. If its own file was, it keeps that. -/
def outlive (d d' : Disk) (c : Connection) : Connection :=
  match c.holding, d.database? c.handle.place, d'.database? c.handle.place with
  | .file _, some db, none => { c with holding := .removed db }
  | _, _, _ => c

end Connection

/-- What callers do with databases. -/
inductive Operation (ν : Type) where
  /-- Create one at a path. -/
  | createAt (p : Path) (fuzzy : Bool)
  /-- Open the one at a path. -/
  | openAt (p : Path) (fuzzy : Bool)
  /-- Open the one of a connection once more. -/
  | clone (n : Nat)
  /-- Load the data files in the directory that a path leads to. -/
  | load (n : Nat) (directory : Path)
  /-- Put a row into a table. -/
  | insert (n : Nat) (table : TableName) (cells : List Cell)
  /-- Mark it with a version. -/
  | setVersion (n : Nat) (version : Int)
  /-- Search it. -/
  | search (n : Nat) (q : Query ν)
  /-- Compile a query, for which it may be searched. -/
  | compile (n : Nat) (q : Query ν)

/-- A disk, and the connections to databases on it, by their numbers. -/
structure Session where
  /-- The disk. -/
  disk : Disk
  /-- The connections. -/
  connections : List Connection := []

namespace Session

/-- The database of a connection. -/
def database? (s : Session) (c : Connection) : Option Database :=
  match c.holding with
  | .file _ => s.disk.database? c.handle.place
  | .removed db | .memory db => some db

/-- What a search through a connection goes through. -/
def store (s : Session) (c : Connection) (engine : Engine := .indexed) : Except Error Store :=
  match s.database? c with
  | some db => .ok ⟨db.catalog, c.handle.fuzzy, engine⟩
  | none => .error (.database .notADatabase)

/-- The session with one more connection, if a database was opened. -/
def connect (s : Session) (opened : Except Error Handle) : Session :=
  match opened with
  | .ok h => { s with connections := s.connections ++ [.ofHandle h] }
  | .error _ => s

/-- Create a database. The connections to a file that was in the way keep it. -/
def create (current : Place) (s : Session) (p : Path) (fuzzy : Bool) : Session :=
  let cleared := (s.disk.clearWay current p).1
  let (disk, created) := s.disk.createDatabase current p fuzzy
  connect ⟨disk, s.connections.map (Connection.outlive s.disk cleared)⟩ created

/-- Open a database. -/
def openDatabase (current : Place) (s : Session) (p : Path) (fuzzy : Bool) : Session :=
  connect ⟨s.disk.touch current p, s.connections⟩ (s.disk.openDatabase current p fuzzy)

/-- Change the database of a connection, if it can be written. -/
def update (s : Session) (n : Nat) (f : Database → Database) : Session :=
  match s.connections[n]? with
  | none => s
  | some c =>
    match c.holding with
    | .file true => { s with disk := s.disk.update c.handle f }
    | .file false | .removed _ => s
    | .memory db =>
      { s with connections := s.connections.set n { c with holding := .memory (f db) } }

/-- Do something. Searching goes through the content of a database, and neither that nor compiling a
query puts anything on the disk. -/
def step (current : Place) (s : Session) : Operation ν → Session
  | .createAt p fuzzy => s.create current p fuzzy
  | .openAt p fuzzy => s.openDatabase current p fuzzy
  | .clone n =>
    match s.connections[n]? with
    | some c => s.openDatabase current c.handle.path c.handle.fuzzy
    | none => s
  | .load n directory => s.update n fun db =>
    { db with catalog := (db.catalog.load (s.disk.source current directory)).catalog }
  | .insert n table cells => s.update n fun db =>
    { db with catalog := (db.catalog.putCells cells table).getD db.catalog }
  | .setVersion n version => s.update n fun db => { db with version }
  | .search _ _ | .compile _ _ => s

/-- Do one thing after the other. -/
def run (current : Place) (s : Session) (ops : List (Operation ν)) : Session :=
  ops.foldl (step current) s

end Session

end Filmography
