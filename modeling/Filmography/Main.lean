import Filmography.CommandLine.Program
import Filmography.Disk.Image

/-!
# The executable

Plays the program against the terminal and the file system. What the program looks at is read from
the file system before the run, and a database that it made is written after it.
-/

namespace Filmography.CommandLine

/-- The path to a place. -/
def placePath (place : Place) : String :=
  String.ofList (place.flatMap fun name => '/' :: name)

/-- The number by which the operating system tells that a file is a directory. -/
def isDirectoryCode : UInt32 := 21

/-- What there is at a place. What cannot be read is not there. -/
def nodeAt (place : Place) : IO (Option Node) := do
  try
    let content ← IO.FS.readBinFile (placePath place)
    return some (.ofFile content.toList)
  catch
    | .inappropriateType _ code _ => return if code = isDirectoryCode then some .directory else none
    | _ => return none

/-- A disk with what there is at some places. -/
def diskAt (places : List Place) : IO Disk := do
  let mut disk := Disk.empty
  for place in places do
    if (disk.node? place).isNone then
      if let some node ← nodeAt place then disk := disk.put place node
  return disk

/-- Write the database or the empty file that a run made, and make the directories to hold it. -/
def save (env : Environment) (words : List Text) (disk : Disk) : IO Unit := do
  let .ok o := Options.read words | return
  if o.has .listDirectives then return
  let .ok (place, access) := disk.reach env.current (databasePath env o) | return
  if access = .memory then return
  match disk.node? place with
  | some (.file []) => write place []
  | some (.database db) => if (o.value? .load).isSome then write place db.write
  | _ => return
where
  write (place : Place) (content : Bytes) : IO Unit := do
    IO.FS.createDirAll (placePath place.dropLast)
    IO.FS.writeBinFile (placePath place) (ByteArray.mk content.toArray)

/-- The surroundings of this process. -/
def environment : IO Environment := do
  let current := (← IO.currentDir).toString.toList
  let temporary := ((← IO.getEnv "TMPDIR").getD "/tmp").toList
  let database := (← IO.getEnv "IMDB_QUERY_DB").map String.toList
  return ⟨Path.names current, temporary, database⟩

/-- Run the program in this process. -/
def runProcess (words : List Text) : IO UInt32 := do
  let env ← environment
  let output ← IO.getStdout
  let input ← IO.getStdin
  let disk ← diskAt ((paths env words).flatMap (Path.placesAlong env.current))
  let say (t : Text) : IO Unit := do
    output.putStr (String.ofList t)
    output.flush
  let tell (t : Text) : IO Unit := IO.eprintln (String.ofList t)
  let hear : IO (Option Text) := do
    let line ← input.getLine
    return if line.isEmpty then none else some line.toList
  let (disk, code) ← (program env words disk).run say tell hear
  save env words disk
  return UInt32.ofNat code

end Filmography.CommandLine

/-- Run the program with the words of a command line. -/
def main (args : List String) : IO UInt32 :=
  Filmography.CommandLine.runProcess (args.map String.toList)
