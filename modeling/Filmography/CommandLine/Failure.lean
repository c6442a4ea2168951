import Filmography.CommandLine.Options
import Filmography.Error

/-!
# Failures

Why a run of the program fails, and how that is reported: by a message, and by what lies behind it.
-/

namespace Filmography.CommandLine

/-- Why a run fails. -/
inductive Failure where
  /-- The command line cannot be read. -/
  | usage (fault : UsageFault)
  /-- The threshold for picking is no number. -/
  | threshold (fault : FloatFault)
  /-- There is nothing to do. -/
  | nothingToDo
  /-- There is no database. -/
  | noDatabase (path : Path)
  /-- There is nothing to pick from. -/
  | noResults
  /-- Something went wrong. -/
  | error (e : Error)
deriving DecidableEq, Repr

namespace Failure

/-- The wording of a failure. -/
def message : Failure → String
  | usage fault => fault.message
  | threshold fault =>
    let why := fault.message
    s!"invalid threshold: {why}"
  | nothingToDo => "run with a query or --load, try --help"
  | noDatabase path =>
    let p := String.ofList path
    s!"no database at {p}, create one with --load"
  | noResults => "no search results available for query"
  | error e => e.message

/-- What lies behind a failure, the nearest cause first. -/
def causes : Failure → List String
  | error e => e.causes
  | _ => []

/-- Text with spaces in front of all its lines but the first. -/
def indented (spaces : Nat) (t : Text) : Text :=
  Text.joined ('\n' :: List.replicate spaces ' ') (Text.splitOn '\n' t)

/-- Causes as lines, numbered from a given number on. -/
def numberedCauses (n : Nat) : List String → Text
  | [] => []
  | c :: cs =>
    let digits := Text.ofNat n
    '\n' :: List.replicate (5 - digits.length) ' ' ++ digits ++ ": ".toList ++
      indented 7 c.toList ++ numberedCauses (n + 1) cs

/-- The report of a failure. Its causes are numbered if there are several. -/
def report (f : Failure) : Text :=
  f.message.toList ++
    match f.causes with
    | [] => []
    | [c] => "\n\nCaused by:\n    ".toList ++ indented 4 c.toList
    | cs => "\n\nCaused by:".toList ++ numberedCauses 0 cs

end Failure

end Filmography.CommandLine
