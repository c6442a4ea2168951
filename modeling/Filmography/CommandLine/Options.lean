import Filmography.Disk.Path

/-!
# Options

The words on a command line are switches, settings, questions about the program, and the words of a
query. A setting takes a value, after an equals sign or as the next word unless that is an option
too. Short options may share a hyphen. A hyphen alone is a word like any other, and after two
hyphens all words belong to the query.

Hyphens before the name of a long option and equals signs before a value do not count, however many
there are, and neither does the value of a switch.

A question ends the reading. Options that are given twice and settings that lack a value are found
only when all words have been read.
-/

namespace Filmography.CommandLine

/-- A switch. -/
inductive Switch where
  /-- Ask for a choice where there is no clear winner. -/
  | interactive
  /-- Print the best result only. -/
  | pick
  /-- Print results as JSON. -/
  | json
  /-- Do not compare names by similarity. -/
  | noFuzzy
  /-- Print the table of directives. -/
  | listDirectives
  /-- Tell more. -/
  | debug
deriving DecidableEq, Repr

/-- A setting. -/
inductive Setting where
  /-- The path to the database. -/
  | database
  /-- The directory from which a new database is loaded. -/
  | load
  /-- By how much the best of several candidates must lead to be picked without asking. -/
  | goodThreshold
deriving DecidableEq, Repr

/-- A question about the program. -/
inductive Inquiry where
  /-- How to use the program. -/
  | help
  /-- Which version of the program this is. -/
  | version
deriving DecidableEq, Repr

/-- What is wrong with a command line. -/
inductive UsageFault where
  /-- There is no such option. -/
  | unknown (word : Text)
  /-- A setting has no value. -/
  | noValue (name : String)
  /-- An option is given twice. -/
  | twice (name : String)
deriving DecidableEq, Repr

/-- Why a command line is not read as options. -/
inductive Interruption where
  /-- It asks a question. -/
  | inquiry (question : Inquiry)
  /-- Something is wrong with it. -/
  | fault (fault : UsageFault)
deriving DecidableEq, Repr

/-- All switches. -/
def Switch.all : List Switch := [interactive, pick, json, noFuzzy, listDirectives, debug]

/-- The name of a switch. -/
def Switch.name : Switch → String
  | interactive => "interactive"
  | pick => "pick"
  | json => "json"
  | noFuzzy => "no-fuzzy"
  | listDirectives => "list-directives"
  | debug => "debug"

/-- The letter for a switch, if there is one. -/
def Switch.letter? : Switch → Option Char
  | interactive => some 'i'
  | pick => some 'p'
  | _ => none

/-- All settings. -/
def Setting.all : List Setting := [database, load, goodThreshold]

/-- The name of a setting. -/
def Setting.name : Setting → String
  | database => "db"
  | load => "load"
  | goodThreshold => "good-threshold"

/-- Whether a setting has a value even if the command line gives none. -/
def Setting.hasDefault : Setting → Bool
  | load => false
  | _ => true

/-- All questions. -/
def Inquiry.all : List Inquiry := [help, version]

/-- The name of a question. -/
def Inquiry.name : Inquiry → String
  | help => "help"
  | version => "version"

/-- The letter for a question. -/
def Inquiry.letter : Inquiry → Char
  | help => 'h'
  | version => 'V'

/-- The wording of a fault in a command line. -/
def UsageFault.message : UsageFault → String
  | unknown word =>
    let w := String.ofList word
    s!"error: Found argument '{w}' which wasn't expected, or isn't valid in this context"
  | noValue name => s!"error: The argument '--{name}' requires a value but none was supplied"
  | twice name =>
    s!"error: The argument '--{name}' was provided more than once, " ++
      "but cannot be used multiple times"

/-- What a command line asks for. -/
structure Options where
  /-- The switches. -/
  switches : List Switch := []
  /-- The settings and the values given for them. -/
  settings : List (Setting × Option Text) := []
  /-- The words of the query. -/
  words : List Text := []
deriving DecidableEq, Repr

namespace Options

/-- Whether a switch is on. -/
def has (o : Options) (s : Switch) : Bool :=
  o.switches.contains s

/-- The value that is given for a setting. -/
def value? (o : Options) (s : Setting) : Option Text :=
  (o.settings.find? fun p => p.1 = s).bind Prod.snd

/-- The query: the words with a space between any two, unless they are blank. -/
def query? (o : Options) : Option Text :=
  let q := Text.joined [' '] o.words
  if q.trim = [] then none else some q

/-- Turn a switch on. -/
def turnOn (o : Options) (s : Switch) : Options :=
  { o with switches := o.switches ++ [s] }

/-- Mention a setting, with a value or without. -/
def mention (o : Options) (s : Setting) (value? : Option Text) : Options :=
  { o with settings := o.settings ++ [(s, value?)] }

/-- Whether a word is an option, and not one of the query or a value. -/
def isOption : Text → Bool
  | '-' :: _ :: _ => true
  | _ => false

/-- Read short options that share a hyphen. -/
def readLetters (word : Text) (o : Options) (letters : Text) : Except Interruption Options :=
  letters.foldlM (fun o c =>
    match Inquiry.all.find? fun i => i.letter = c, Switch.all.find? fun s => s.letter? = some c with
    | some i, _ => .error (.inquiry i)
    | none, some s => .ok (o.turnOn s)
    | none, none => .error (.fault (.unknown word))) o

/-- Read the words of a command line. -/
def readFrom (o : Options) : List Text → Except Interruption Options
  | [] => .ok o
  | word :: rest =>
    match word with
    | ['-', '-'] => .ok { o with words := o.words ++ rest }
    | '-' :: '-' :: long =>
      let (name, value?) := Text.cutAt '=' (long.dropWhile (· = '-'))
      match Inquiry.all.find? fun i => i.name.toList = name,
          Switch.all.find? fun s => s.name.toList = name,
          Setting.all.find? fun s => s.name.toList = name with
      | some i, _, _ => .error (.inquiry i)
      | none, some s, _ => readFrom (o.turnOn s) rest
      | none, none, none => .error (.fault (.unknown word))
      | none, none, some s =>
        match value?, rest with
        | some value, rest => readFrom (o.mention s (some (value.dropWhile (· = '=')))) rest
        | none, [] => .ok (o.mention s none)
        | none, next :: rest =>
          if isOption next then readFrom (o.mention s none) (next :: rest)
          else readFrom (o.mention s (some next)) rest
    | '-' :: c :: letters => do readFrom (← readLetters word o (c :: letters)) rest
    | word => readFrom { o with words := o.words ++ [word] } rest

/-- What is wrong with the options of a command line as a whole. -/
def fault? (o : Options) : Option UsageFault :=
  let mentioned := o.settings.map Prod.fst
  let repeated :=
    ((Switch.all.filter fun s => 1 < o.switches.count s).map Switch.name) ++
      ((Setting.all.filter fun s => 1 < mentioned.count s).map Setting.name)
  let unset :=
    (mentioned.filter fun s => (o.value? s).isNone && !s.hasDefault).map Setting.name
  (repeated.map UsageFault.twice ++ unset.map UsageFault.noValue).head?

/-- Read a command line. -/
def read (words : List Text) : Except Interruption Options := do
  let o ← readFrom {} words
  match o.fault? with
  | none => return o
  | some fault => throw (.fault fault)

end Options

end Filmography.CommandLine
