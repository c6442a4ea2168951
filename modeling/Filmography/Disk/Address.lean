import Filmography.Disk.Path

/-!
# Addresses of databases

A database is opened by an address. Usually that is the path to its file. After `file:` an address
has parts: a path, and after a question mark options, with ampersands between them. A percent sign
and two digits stand for a byte in them, and what follows a number sign does not count. The option
`mode` tells how the database is accessed.

A database without a path, or with a certain one, is kept in memory.
-/

namespace Filmography

/-- How a database is accessed. -/
inductive Access where
  /-- It is in a file, which is made if it does not exist. -/
  | create
  /-- It is in a file that exists. -/
  | existing
  /-- It is in a file that exists, and is not changed. -/
  | readOnly
  /-- It is in memory. -/
  | memory
deriving DecidableEq, Repr

/-- Which database is opened, and how. -/
structure Address where
  /-- The path to its file. -/
  path : Path
  /-- How it is accessed. -/
  access : Access := .create
deriving DecidableEq, Repr

namespace Address

/-- The path to a database that is kept in memory. -/
def memoryPath : Path := ":memory:".toList

/-- The name of the machine that may be given in an address. -/
def thisMachine : Text := "localhost".toList

/-- The bytes for which text with percent signs stands. It ends where it stands for a null byte. -/
def unescape : Text → Bytes
  | [] => []
  | '%' :: high :: low :: t =>
    match Integer.digitValue? 16 high, Integer.digitValue? 16 low with
    | some 0, some 0 => []
    | some h, some l => UInt8.ofNat (16 * h + l) :: unescape t
    | _, _ => Utf8.encode ['%'] ++ unescape (high :: low :: t)
  | c :: t => Utf8.encode [c] ++ unescape t

/-- The text for which text with percent signs stands, or itself if it stands for none. -/
def plain (t : Text) : Text :=
  (Utf8.decode (unescape t)).toOption.getD t

/-- The access for a value of the option `mode`. -/
def access? (mode : Text) : Option Access :=
  [("ro", .readOnly), ("rw", .existing), ("rwc", .create), ("memory", .memory)].lookup
    (String.ofList mode)

/-- An address with an option taken into account. -/
def withOption (a : Address) (name value : Text) : Except AddressFault Address :=
  if name = "mode".toList then
    match access? value with
    | some access => .ok { a with access }
    | none => .error (.access value)
  else if name = "cache".toList ∧ value ≠ "shared".toList ∧ value ≠ "private".toList then
    .error (.cache value)
  else .ok a

/-- The parts of an address that starts with `file:`, given what follows that. -/
def ofParts (t : Text) : Except AddressFault Address := do
  let t ← match t with
    | '/' :: '/' :: t =>
      let machine := t.takeWhile (· ≠ '/')
      if machine = [] ∨ machine = thisMachine then pure (t.dropWhile (· ≠ '/'))
      else throw (.authority machine)
    | t => pure t
  let (path, options?) := Text.cutAt '?' (t.takeWhile (· ≠ '#'))
  let options := ((options?.map (Text.splitOn '&')).getD []).filter fun option =>
    option.head?.any (· ≠ '=')
  options.foldlM (fun a option =>
    let (name, value?) := Text.cutAt '=' option
    a.withOption (plain name) (plain (value?.getD []))) { path := plain path }

/-- The address that a text is. -/
def ofText (t : Text) : Except AddressFault Address := do
  let a ← match t with
    | 'f' :: 'i' :: 'l' :: 'e' :: ':' :: t => ofParts t
    | path => pure { path }
  return if a.path = [] ∨ a.path = memoryPath then { a with access := .memory } else a

end Address

end Filmography
