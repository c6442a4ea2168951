import Filmography.Catalog.Basic
import Filmography.Data.Utf8

/-!
# Disks

A disk holds directories, files and databases, each at a place of its own. A database is a file that
holds a catalogue and is marked with the version of its format.

* `Disk.node?_put` says what is at a place after something was put somewhere;
* `Disk.node?_remove` says what is at a place after something was removed.
-/

namespace Filmography

/-- A place on a disk: the names of the directories that lead to it, and its own name. -/
abbrev Place := List Text

/-- A database. -/
structure Database where
  /-- Its content. -/
  catalog : Catalog := .empty
  /-- The version of its format, a signed number of 32 bits. -/
  version : Int

/-- What there can be at a place. -/
inductive Node where
  /-- A directory. -/
  | directory
  /-- A file that is not a database. -/
  | file (content : Bytes)
  /-- A database. -/
  | database (content : Database)

/-- What is on a disk. The place without a name is always a directory. -/
structure Disk where
  /-- What there is at places with a name. -/
  nodes : Table (Prod.fst : Place × Node → Place) := Table.empty

namespace Disk

/-- The disk with nothing on it. -/
def empty : Disk := {}

/-- What there is at a place. -/
def node? (d : Disk) (p : Place) : Option Node :=
  match p with
  | [] => some .directory
  | p => (d.nodes.find? p).map Prod.snd

/-- The disk with something at a place, instead of what is there. -/
def put (d : Disk) (p : Place) (n : Node) : Disk :=
  ⟨d.nodes.put (p, n)⟩

/-- What was put at a place is there, and nothing changes at other places. -/
theorem node?_put (d : Disk) {p : Place} (hp : p ≠ []) (n : Node) (q : Place) :
    (d.put p n).node? q = if p = q then some n else d.node? q := by
  cases q with
  | nil => rw [if_neg hp]; rfl
  | cons c q =>
    have h := Table.find?_put d.nodes (p, n) (c :: q)
    show (((d.nodes.put (p, n)).find? (c :: q)).map Prod.snd) = _
    rw [h]
    split
    · rfl
    · rfl

/-- The disk without what is at a place. -/
def remove (d : Disk) (p : Place) : Disk :=
  ⟨d.nodes.erase p⟩

/-- There is nothing at a place from which it was removed, and nothing changes at other places. -/
theorem node?_remove (d : Disk) {p : Place} (hp : p ≠ []) (q : Place) :
    (d.remove p).node? q = if p = q then none else d.node? q := by
  cases q with
  | nil => rw [if_neg hp]; rfl
  | cons c q =>
    show ((d.nodes.erase p).find? (c :: q)).map Prod.snd = _
    rw [Table.find?_erase]
    split
    · rfl
    · rfl

/-- A place may as well be cleared before something is put at another one. -/
theorem remove_put (d : Disk) {p q : Place} (h : p ≠ q) (n : Node) :
    (d.put p n).remove q = (d.remove q).put p n :=
  congrArg Disk.mk (Table.erase_put d.nodes h)

/-- The database at a place. -/
def database? (d : Disk) (p : Place) : Option Database :=
  match d.node? p with
  | some (.database db) => some db
  | _ => none

end Disk

end Filmography
