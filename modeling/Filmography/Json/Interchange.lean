import Filmography.Atom
import Filmography.Json.Basic
import Filmography.Query.Parser
import Filmography.Query.Printer

/-!
# Atoms and queries as JSON

An atom is a number and a query is a string in the query syntax. Reading either says what is wrong
with any other value.
-/

namespace Filmography

/-- What is wrong with a JSON value. -/
inductive JsonFault where
  /-- The value is of another type. -/
  | type (found : Json) (expected : String)
  /-- The value is out of range. -/
  | value (found : Json) (expected : String)
  /-- The value is the reserved identifier. -/
  | reservedAtom
  /-- The string is no query. -/
  | query (error : Error)

/-- The wording of a fault in a JSON value. -/
def JsonFault.message : JsonFault → String
  | type found expected =>
    let v := String.ofList found.describe
    s!"invalid type: {v}, expected {expected}"
  | value found expected =>
    let v := String.ofList found.describe
    s!"invalid value: {v}, expected {expected}"
  | reservedAtom => FieldFault.reservedAtom.message
  | query error => error.message

/-- Read an atom. -/
def Atom.ofJson : Json → Except JsonFault Atom
  | .integer n =>
    if 0 ≤ n ∧ n < 0x100000000 then
      match Atom.ofWord? (UInt32.ofNat n.toNat) with
      | some a => .ok a
      | none => .error .reservedAtom
    else .error (.value (.integer n) "u32")
  | v => .error (.type v "u32")

/-- Write an atom. -/
def Atom.toJson (a : Atom) : Json :=
  .integer a.toInt

/-- Read a query. -/
def Query.ofJson : Json → Except JsonFault Query
  | .string t => (Query.parse t).mapError .query
  | v => .error (.type v "a string")

/-- Write a query. -/
def Query.toJson (q : Query) : Json :=
  .string q.print

end Filmography
