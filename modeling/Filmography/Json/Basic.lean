import Filmography.Number.Decimal
import Filmography.Text.Quoted

/-!
# JSON values

JSON values and their compact text: no spaces, members in the order given, floating-point numbers
with the fewest digits that read back. A number that is not finite is written as `null`.
-/

namespace Filmography

/-- A JSON value. -/
inductive Json where
  /-- The null value. -/
  | null
  /-- A truth value. -/
  | bool (b : Bool)
  /-- A number without fraction and exponent. -/
  | integer (n : Int)
  /-- Any other number. -/
  | float (x : Float)
  /-- A string. -/
  | string (t : Text)
  /-- An array. -/
  | array (items : List Json)
  /-- An object. -/
  | object (members : List (Text × Json))

/-- Numbers take an exponent from `1e16` on and below `1e-5`, and a whole number keeps a zero after
its point. -/
def NumberStyle.json : NumberStyle := ⟨some (-5), some 16, ['.', '0'], .even⟩

namespace Json

/-- One character of a string: quotes, backslashes and control characters are escaped. -/
def escaped (c : Char) : Text :=
  if c = '"' ∨ c = '\\' then ['\\', c]
  else if c.toNat = 8 then ['\\', 'b']
  else if c.toNat = 9 then ['\\', 't']
  else if c.toNat = 10 then ['\\', 'n']
  else if c.toNat = 12 then ['\\', 'f']
  else if c.toNat = 13 then ['\\', 'r']
  else if c.toNat < 32 then
    ['\\', 'u', '0', '0', Nat.digitChar (c.toNat / 16), Nat.digitChar (c.toNat % 16)]
  else [c]

/-- A string with its quotes. -/
def quoted (t : Text) : Text :=
  '"' :: t.flatMap escaped ++ ['"']

/-- A floating-point number. -/
def floatText (x : Float) : Text :=
  if x.isNaN || x.isInf then "null".toList else NumberStyle.json.write x

mutual

/-- The compact text of a value. -/
def print : Json → Text
  | null => "null".toList
  | bool b => (if b then "true" else "false").toList
  | integer n => Text.ofInt n
  | float x => floatText x
  | string t => quoted t
  | array items => '[' :: printItems items ++ [']']
  | object members => '{' :: printMembers members ++ ['}']

/-- The items of an array, with a comma between any two. -/
def printItems : List Json → Text
  | [] => []
  | [v] => v.print
  | v :: vs => v.print ++ ',' :: printItems vs

/-- The members of an object, with a comma between any two. -/
def printMembers : List (Text × Json) → Text
  | [] => []
  | [(k, v)] => quoted k ++ ':' :: v.print
  | (k, v) :: ms => quoted k ++ ':' :: v.print ++ ',' :: printMembers ms

end

/-- A value in a sentence about what is wrong with it. -/
def describe : Json → Text
  | null => "null".toList
  | bool b => "boolean `".toList ++ (if b then "true" else "false").toList ++ "`".toList
  | integer n => "integer `".toList ++ Text.ofInt n ++ "`".toList
  | float x => "floating point `".toList ++ NumberStyle.json.write x ++ "`".toList
  | string t => "string ".toList ++ Text.quoted t
  | array _ => "sequence".toList
  | object _ => "map".toList

end Json

end Filmography
