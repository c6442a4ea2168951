import Filmography.Number.Integer

/-!
# Floating-point numbers written in text

A number is an optional sign, digits with at most one point among or beside them, and an optional
exponent; infinity and not-a-number are written as words in any letter case. The value is the
double nearest to the number that is written.
-/

namespace Filmography

/-- What is wrong with a text that should be a floating-point number. -/
inductive FloatFault where
  /-- There is nothing to read. -/
  | empty
  /-- The text is not a number. -/
  | invalid
deriving DecidableEq, Repr

/-- The wording of a fault. -/
def FloatFault.message : FloatFault → String
  | .empty => "cannot parse float from empty string"
  | .invalid => "invalid float literal"

namespace FloatText

/-- Whether a text is the given lower-case word, ASCII letter case aside. -/
def isWord (word : String) (t : Text) : Bool :=
  t.map Char.toLower == word.toList

/-- The exponent that ends a number, after its letter. -/
def exponent? (t : Text) : Option Int :=
  match t with
  | '-' :: digits => if digits ≠ [] ∧ digits.all Char.isDigit then
      some (-Int.ofNat (Nat.ofDigitChars 10 digits 0)) else none
  | '+' :: digits => if digits ≠ [] ∧ digits.all Char.isDigit then
      some (Nat.ofDigitChars 10 digits 0) else none
  | digits => if digits ≠ [] ∧ digits.all Char.isDigit then
      some (Nat.ofDigitChars 10 digits 0) else none

/-- The double nearest to `digits * 10 ^ exponent`. Numbers beyond the range of doubles, or too
small for it, are decided by their order of magnitude. -/
def nearest (digits : Nat) (exponent : Int) : Float :=
  let magnitude : Int := (Nat.toDigits 10 digits).length + exponent
  if digits = 0 ∨ magnitude < -330 then 0.0
  else if 310 < magnitude then 1.0 / 0.0
  else Float.ofScientific digits (exponent < 0) exponent.natAbs

/-- An unsigned finite number: digits, a fraction and an exponent. -/
def finite? (t : Text) : Option Float :=
  let whole := t.takeWhile Char.isDigit
  let afterWhole := t.dropWhile Char.isDigit
  let (fraction, rest) := match afterWhole with
    | '.' :: r => (r.takeWhile Char.isDigit, r.dropWhile Char.isDigit)
    | r => ([], r)
  if whole ++ fraction = [] then none
  else
    let value (e : Int) : Float :=
      nearest (Nat.ofDigitChars 10 (whole ++ fraction) 0) (e - fraction.length)
    match rest with
    | [] => some (value 0)
    | c :: power => if c = 'e' ∨ c = 'E' then (exponent? power).map value else none

/-- An unsigned number: a word or a finite number. -/
def unsigned? (t : Text) : Option Float :=
  if isWord "inf" t || isWord "infinity" t then some (1.0 / 0.0)
  else if isWord "nan" t then some (0.0 / 0.0)
  else finite? t

/-- Read a whole text as a floating-point number. -/
def parse (t : Text) : Except FloatFault Float :=
  let result := match t with
    | [] => none
    | '-' :: r => (unsigned? r).map fun x => -x
    | '+' :: r => unsigned? r
    | r => unsigned? r
  match t, result with
  | [], _ => .error .empty
  | _, some x => .ok x
  | _, none => .error .invalid

end FloatText

end Filmography
