import Filmography.CommandLine.Choice
import Filmography.CommandLine.Failure
import Filmography.Disk.Handle
import Filmography.Query.Call
import Filmography.Query.Parser
import Filmography.Query.Printer
import Filmography.Report.Directives
import Filmography.Search.StatementText

/-!
# The program

The program lists the directives, or loads data files into a new database, or answers a query from a
database, or does the latter two in a row. It runs at a console and on a disk; what it did on the
disk stays when it fails.
-/

namespace Filmography.CommandLine

/-- What surrounds a run. -/
structure Environment where
  /-- The current directory. -/
  current : Place
  /-- The path to the directory for temporary files. -/
  temporary : Path
  /-- The path to the database, unless the command line gives one. -/
  database : Option Path := none

/-- What a run rests on: what surrounds it, and the engine that runs its statements. -/
structure Host extends Environment where
  /-- The engine. -/
  engine : Engine := .indexed

instance : Coe Environment Host where
  coe env := { env with }

/-- A part of a run. -/
abbrev Run := ExceptT Failure (StateT Disk Console)

namespace Run

/-- Do something at the console. -/
def atConsole {α : Type} (c : Console α) : Run α :=
  ExceptT.lift (StateT.lift c)

/-- Print text. -/
def say (t : Text) : Run Unit := atConsole (Console.say t)

/-- Log something that everybody should know. -/
def inform (t : Text) : Run Unit := atConsole (Console.tell ("INFO: ".toList ++ t))

/-- Go on unless something went wrong. -/
def check {α : Type} : Except Error α → Run α
  | .ok a => pure a
  | .error e => throw (.error e)

end Run

/-- A detail of a part of the program, which is logged if asked for. -/
def detail (o : Options) (part : String) (t : Text) : Console Unit :=
  if o.has .debug then Console.tell ("DEBUG[".toList ++ part.toList ++ "]: ".toList ++ t)
  else pure ()

/-- The part of the program that reports on databases. -/
def storePart : String := "imdb_search::store"

/-- The part of the program that reports on loading. -/
def loadPart : String := "imdb_search::store::load"

/-- The part of the program that reports on searches. -/
def searchPart : String := "imdb_search::search"

/-- The path to the database: that of the command line, that of the environment, or a fixed one in
the directory for temporary files. -/
def databasePath (env : Host) (o : Options) : Path :=
  (o.value? .database).getD (env.database.getD
    ((env.temporary.join "imdb-query".toList).join "imdb.sqlite".toList))

/-- The threshold for picking. -/
def goodThreshold (o : Options) : Except FloatFault Float :=
  match o.value? .goodThreshold with
  | none => .ok 0.25
  | some t => FloatText.parse t

/-! ### Loading -/

/-- What is logged about a loaded directory. -/
def totalText (loading : Loading) (directory : Path) : Text :=
  "loaded ".toList ++ Text.ofNat loading.total ++ " records from ".toList ++ directory

/-- What is logged about the records of each file. -/
def countsText (loading : Loading) : Text :=
  let n (f : DataFile) : Text := Text.ofNat (loading.count f)
  "loaded ".toList ++ n .movies ++ " movies, ".toList ++ n .tvshows ++ " TV shows, ".toList ++
    n .episodes ++ " episodes, ".toList ++ n .actors ++ " actors, ".toList ++ n .ratings ++
    " ratings and ".toList ++ n .credits ++ " credits".toList

/-- Load the data files of a directory into a new database. -/
def loadInto (env : Host) (o : Options) (database directory : Path) : Run Unit := do
  let (disk, cleared) := (← get).clearWay env.current database
  set disk
  Run.check cleared
  Run.inform ("creating database at ".toList ++ database)
  let (disk, established) := disk.establish env.current database !(o.has .noFuzzy)
  set disk
  let handle ← Run.check established
  let (disk, loading) ← Run.check (disk.load env.current handle directory)
  set disk
  for l in loading.loaded do
    Run.atConsole (detail o loadPart
      ("loaded ".toList ++ Text.ofNat l.count ++ " records from ".toList ++ l.path))
  if let some e := loading.error then throw (.error e)
  Run.inform (totalText loading directory)
  Run.inform (countsText loading)

/-! ### Searching -/

/-- Log what a search reports. -/
def listen (o : Options) : Event → Console Unit
  | .compiled q statement =>
    let t := "compiled search for '".toList ++ q.print ++ "':\n".toList ++ statement.describe
    if q.debug then Console.tell ("INFO: ".toList ++ t) else detail o searchPart t
  | .settled role q hit? =>
    let picked : Text := match hit? with
      | none => "nothing".toList
      | some hit => hit.print
    detail o searchPart
      (role.label ++ " sub-search '".toList ++ q.print ++ "' picked ".toList ++ picked)

/-- Answer a question: a person does, if the program may ask, and otherwise it is the first
candidate. -/
def answer (o : Options) (q : Question) : Console Answer :=
  if o.has .interactive then choose q else pure (.ok q.candidates.head?)

/-- Hold a dialogue at the console. -/
def hold {α : Type} (o : Options) (d : Dialogue Float α) : Run α := do
  Run.check (← Run.atConsole (d.run (answer o) (listen o)))

/-- Answer a query from a database. -/
def search (env : Host) (o : Options) (database : Path) (threshold : Float) (text : Text) :
    Run Unit := do
  let disk ← get
  if !disk.exists? env.current database then throw (.noDatabase database)
  Run.atConsole (detail o storePart ("opening database ".toList ++ database))
  set (disk.touch env.current database)
  let handle ← Run.check (disk.openDatabase env.current database !(o.has .noFuzzy))
  let query ← Run.check (Query.parse text)
  let query := query.apply (.goodThreshold threshold)
  let store ← Run.check (disk.store handle env.engine)
  if !store.fuzzy then
    Run.atConsole (detail o storePart ("similarity matching unavailable: no such function: " ++
      "similarity in SELECT similarity('a', 'a') at offset 7").toList)
  let hits ← hold o (query.search store)
  let hits ←
    if o.has .pick then
      match ← hold o (pick .result query.goodThreshold hits) with
      | none => throw .noResults
      | some hit => pure [hit]
    else pure hits
  Run.say (if o.has .json then Report.jsonLines hits else Report.table hits)

/-! ### A run -/

/-- How to use the program. -/
def helpText : Text :=
  ("USAGE:\n    imdb-query [OPTIONS] [--] [query]...\n\nOPTIONS:\n" ++
    "        --db <db>                            the location of the database\n" ++
    "        --debug                              show debug messages\n" ++
    "        --good-threshold <good-threshold>    the lead at which the best is picked\n" ++
    "    -h, --help                               print this message\n" ++
    "    -i, --interactive                        ask where there is no clear winner\n" ++
    "        --json                               print each result as a line of JSON\n" ++
    "        --list-directives                    print every query directive and exit\n" ++
    "        --load <DATA_DIR>                    create the database from a directory\n" ++
    "        --no-fuzzy                           do not match names by similarity\n" ++
    "    -p, --pick                               print only the single best result\n" ++
    "    -V, --version                            print the version\n").toList

/-- The name and the version of the program. -/
def versionText : Text := "imdb-query 0.1.0\n".toList

/-- The answer to a question about the program. -/
def Inquiry.answer : Inquiry → Text
  | help => helpText
  | version => versionText

/-- The paths that a run looks at or puts something at: the database and the data files. -/
def paths (env : Host) (words : List Text) : List Path :=
  match Options.read words with
  | .error _ => []
  | .ok o =>
    let database := databasePath env o
    database :: ((Address.ofText database).toOption.map Address.path).toList ++
      match o.value? .load with
      | none => []
      | some directory =>
        DataFile.all.flatMap fun f =>
          [Path.join directory f.fileName, Path.join directory f.compressedName]

/-- What options ask for. -/
def perform (env : Host) (o : Options) : Run Unit := do
  let threshold ← match goodThreshold o with
    | .ok x => pure x
    | .error fault => throw (.threshold fault)
  if o.has .listDirectives then Run.say Report.directives
  else
    let database := databasePath env o
    if let some directory := o.value? .load then loadInto env o database directory
    match o.query?, o.value? .load with
    | none, some _ => return
    | none, none => throw .nothingToDo
    | some text, _ => search env o database threshold text

/-- A run with given options: the disk after it, and the exit code. A failure is logged. -/
def runOptions (env : Host) (o : Options) (disk : Disk) : Console (Disk × Nat) := do
  match ← (perform env o).run.run disk with
  | (.ok (), disk) => return (disk, 0)
  | (.error failure, disk) =>
    Console.tell failure.report
    return (disk, 1)

/-- A run with the words of a command line: the disk after it, and the exit code. -/
def program (env : Host) (words : List Text) (disk : Disk) : Console (Disk × Nat) := do
  match Options.read words with
  | .ok o => runOptions env o disk
  | .error (.inquiry question) =>
    Console.say question.answer
    return (disk, 0)
  | .error (.fault fault) =>
    Console.tell (Failure.usage fault).report
    return (disk, 1)

end Filmography.CommandLine
