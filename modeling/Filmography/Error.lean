import Filmography.Data.Fault
import Filmography.Number.FloatText
import Filmography.Query.Directive
import Filmography.Role

/-!
# Errors

Everything that can go wrong, as causes. The wording is in `Error.message`, and `Error.causes`
lists the wording of what lies behind an error, nearest first.
-/

namespace Filmography

/-- What is wrong with the argument of a directive. -/
inductive ArgumentFault where
  /-- There is an argument where none is taken. -/
  | unwanted (argument : Text)
  /-- There is no argument where one is needed. -/
  | missing (what : String)
  /-- The argument is no range. -/
  | range (argument : Text) (fault : IntegerFault)
  /-- The argument is no integer. -/
  | integer (argument : Text) (fault : IntegerFault)
  /-- The argument is no number. -/
  | float (argument : Text) (fault : FloatFault)
  /-- The argument is not between zero and one. -/
  | outsideUnit (argument : Text)
  /-- The argument is not one or two words. -/
  | sortWords (argument : Text)
deriving DecidableEq, Repr

/-- The wording of a fault in an argument. -/
def ArgumentFault.message : ArgumentFault → String
  | .unwanted argument =>
    let a := String.ofList argument
    s!"takes no argument, but got '{a}'"
  | .missing what => s!"requires an argument ({what})"
  | .range argument fault =>
    let a := String.ofList argument
    let why := fault.message
    s!"invalid range '{a}': error parsing number: {why}"
  | .integer argument fault =>
    let a := String.ofList argument
    let why := fault.message
    s!"'{a}': {why}"
  | .float argument fault =>
    let a := String.ofList argument
    let why := fault.message
    s!"'{a}': {why}"
  | .outsideUnit argument =>
    let a := String.ofList argument
    s!"'{a}' is not in the range 0.0-1.0"
  | .sortWords argument =>
    let a := String.ofList argument
    s!"expected a column and an optional direction, but got '{a}'"

/-- A state of the search that its statements exclude. -/
inductive BugCause where
  /-- A row belongs to no kind. -/
  | noKind
  /-- A row has the reserved identifier. -/
  | reservedAtom
deriving DecidableEq, Repr

/-- What is wrong with the address of a database. -/
inductive AddressFault where
  /-- It names a machine. -/
  | authority (name : Text)
  /-- There is no such way to access a database. -/
  | access (mode : Text)
  /-- There is no such way to keep parts of a database in memory. -/
  | cache (mode : Text)
deriving DecidableEq, Repr

/-- The wording of a fault of an address. -/
def AddressFault.message : AddressFault → String
  | .authority name =>
    let n := String.ofList name
    s!"invalid uri authority: {n}"
  | .access mode =>
    let m := String.ofList mode
    s!"no such access mode: {m}"
  | .cache mode =>
    let m := String.ofList mode
    s!"no such cache mode: {m}"

/-- What is wrong with a database, or with a value in it. -/
inductive DatabaseFault where
  /-- The file is not a database. -/
  | notADatabase
  /-- A file cannot be opened. It is named if it is that of the database. -/
  | cannotOpen (path? : Option Text)
  /-- There is a null character in the path, after some bytes. -/
  | nullCharacter (position : Nat)
  /-- The database must not be changed. -/
  | readOnly
  /-- An order has too many terms. -/
  | tooManyTerms
  /-- A pattern is too long. -/
  | patternTooLong
  /-- The address of the database makes no sense. -/
  | address (fault : AddressFault)
  /-- An integer in a column does not fit its field. -/
  | outOfRange (value : Int) (column : Nat)
deriving DecidableEq, Repr

/-- The wording of a fault of a database. -/
def DatabaseFault.message : DatabaseFault → String
  | .notADatabase => "file is not a database"
  | .cannotOpen none => "unable to open database file"
  | .cannotOpen (some path) =>
    let p := String.ofList path
    s!"unable to open database file: {p}"
  | .nullCharacter position => s!"nul byte found in provided data at position: {position}"
  | .readOnly => "attempt to write a readonly database"
  | .tooManyTerms => "too many terms in ORDER BY clause"
  | .patternTooLong => "LIKE or GLOB pattern too complex"
  | .address fault => fault.message
  | .outOfRange value column => s!"Integer {value} out of range at index {column}"

/-- The class to which a fault of a database belongs, with its number, if it belongs to one. -/
def DatabaseFault.class? : DatabaseFault → Option String
  | .address _ | .tooManyTerms | .patternTooLong => some "Error code 1: SQL logic error"
  | .readOnly => some "Error code 8: Attempt to write a readonly database"
  | .cannotOpen _ => some "Error code 14: Unable to open the database file"
  | .notADatabase => some "Error code 26: File opened that is not a database file"
  | .nullCharacter _ | .outOfRange .. => none

/-- Why a file cannot be used. -/
inductive FileFault where
  /-- The operating system refuses. -/
  | system (fault : SystemFault)
  /-- There is no database to open. -/
  | noDatabase
deriving DecidableEq, Repr

/-- The wording of a fault of a file. -/
def FileFault.message : FileFault → String
  | .system fault => fault.message
  | .noDatabase => "database does not exist"

/-- What can go wrong. -/
inductive Error where
  /-- A database has another version than the one supported. -/
  | versionMismatch (expected found : UInt64)
  /-- A word names no kind. -/
  | unknownKind (word : Text)
  /-- A name names no directive. -/
  | unknownDirective (name : Text)
  /-- A directive cannot use its argument. -/
  | directiveArgument (directive : Directive) (fault : ArgumentFault)
  /-- A word names no sort column, or no direction. -/
  | unknownSort (word : Text)
  /-- A text is no number. -/
  | number (fault : IntegerFault)
  /-- Building or running a sub-query failed. -/
  | subSearch (role : Role) (error : Error)
  /-- Whoever was asked to choose refused. -/
  | chooser (message : String)
  /-- A row is as no row should be. -/
  | bug (cause : BugCause)
  /-- A data file is faulty. -/
  | data (path : Text) (fault : DataFault)
  /-- A database is faulty. -/
  | database (fault : DatabaseFault)
  /-- A file cannot be used. -/
  | file (path : Text) (fault : FileFault)
deriving DecidableEq, Repr

namespace Error

/-- The wording of an error. -/
def message : Error → String
  | versionMismatch expected found =>
    s!"database version mismatch: expected version {expected} but got version {found}. " ++
      "Please reload the database."
  | unknownKind word =>
    let w := String.ofList word
    s!"unrecognized entity kind: '{w}'"
  | unknownDirective name =>
    let n := String.ofList name
    s!"unrecognized search directive: '{n}'"
  | directiveArgument directive fault =>
    let name := directive.name
    let why := fault.message
    s!"invalid use of directive '{name}': {why}"
  | unknownSort word =>
    let w := String.ofList word
    s!"unrecognized sort column or direction: '{w}'"
  | number fault =>
    let why := fault.message
    s!"error parsing number: {why}"
  | subSearch role error =>
    let label := String.ofList role.label
    let why := error.message
    s!"{label} sub-search: {why}"
  | chooser text => text
  | bug cause =>
    let what := match cause with
      | .noKind => "unrecognized entity discriminator: None"
      | .reservedAtom => "search produced the reserved atom 0"
    s!"BUG: {what}\nPlease report this bug with a backtrace at " ++
      "https://github.com/BurntSushi/imdb-rename"
  | data path fault =>
    let p := String.ofList path
    let why := fault.message
    s!"{p}: {why}"
  | database fault =>
    let why := fault.message
    s!"sqlite error: {why}"
  | file path fault =>
    let p := String.ofList path
    let why := fault.message
    s!"{p}: {why}"

/-- What lies behind an error, the nearest cause first. -/
def causes : Error → List String
  | number fault => [fault.message]
  | subSearch _ error => error.message :: error.causes
  | database fault => fault.message :: fault.class?.toList
  | file _ fault => [fault.message]
  | _ => []

end Error

end Filmography
