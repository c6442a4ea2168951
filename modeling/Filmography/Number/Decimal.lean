import Filmography.Text.Basic

/-!
# Floating-point numbers in decimal

A finite double is an exact multiple of a power of two. Its shortest decimal is the one with the
fewest digits among those that round to it, and the nearest of these. It is found on the coarsest
decimal grid that has a point in the interval of reals rounding to the number: only the two
neighbours of the number on a grid can be hits.

* `Binary` is the exact value of a finite double, `Binary.interval` what rounds to it;
* `Decimal.shortest` is the shortest decimal;
* `NumberStyle` says how a decimal is laid out, and `NumberStyle.write` lays it out;
* `fixedPlaces` writes a number with a fixed count of decimal places.
-/

namespace Filmography

/-- The exact value of a finite double without its sign: `mantissa * 2 ^ exponent`. -/
structure Binary where
  /-- The integral mantissa. -/
  mantissa : Nat
  /-- The power of two that scales it. -/
  exponent : Int
deriving DecidableEq, Repr

namespace Binary

/-- Whether a double has its sign bit set. -/
def isNegative (x : Float) : Bool :=
  x.toBits >>> 63 == 1

/-- The leading bit of a mantissa, which is not stored. -/
def leadingBit : Nat := 0x10000000000000

/-- The exact value of a finite double, from its bits. -/
def ofFloat (x : Float) : Binary :=
  let bits := x.toBits.toNat
  let fraction := bits % leadingBit
  let biased : Nat := bits / leadingBit % 0x800
  if biased = 0 then ⟨fraction, -1074⟩ else ⟨leadingBit + fraction, Int.ofNat biased - 1075⟩

/-- The numerator of `n * 2 ^ e`. -/
def numerator (n : Nat) (e : Int) : Nat :=
  n <<< e.toNat

/-- The denominator of `n * 2 ^ e`. -/
def denominator (e : Int) : Nat :=
  1 <<< (-e).toNat

/-- The reals that round to the number, in quarters of its last binary place: the ends, and
whether they belong to the interval. Below a power of two the neighbour is half as far away. -/
def interval (b : Binary) : Nat × Nat × Bool :=
  let below := if b.mantissa = leadingBit ∧ b.exponent ≠ -1074 then 1 else 2
  (4 * b.mantissa - below, 4 * b.mantissa + 2, b.mantissa % 2 == 0)

end Binary

/-- Which of two points of a grid stands for a number half-way between them. -/
inductive Tie where
  /-- The even one. -/
  | even
  /-- The greater one. -/
  | up
deriving DecidableEq, Repr

/-- The number of the point that stands for the middle between the points number `down` and
`down + 1`. -/
def Tie.choose (tie : Tie) (down : Nat) : Nat :=
  match tie with
  | even => down + down % 2
  | up => down + 1

/-- A decimal: `digits * 10 ^ exponent`. -/
structure Decimal where
  /-- The digits, read as a number. -/
  digits : Nat
  /-- The power of ten of the last digit. -/
  exponent : Int
deriving DecidableEq, Repr

namespace Decimal

/-- The point of the grid of multiples of `10 ^ k` that rounds to the number, if there is one. Of
two such points it is the nearer one. -/
def onGrid (tie : Tie) (b : Binary) (k : Int) : Option Nat :=
  let e := b.exponent - 2
  let (low, high, closed) := b.interval
  -- the number, and the ends of its interval, over one denominator and in units of the grid
  let scale (n : Nat) : Nat := Binary.numerator n e * Nat.pow 10 (-k).toNat
  let den := Binary.denominator e * Nat.pow 10 k.toNat
  let value := scale (4 * b.mantissa)
  let inside (d : Nat) : Bool :=
    if closed then scale low ≤ d * den && d * den ≤ scale high
    else scale low < d * den && d * den < scale high
  let down := value / den
  let up := down + 1
  match inside down && down != 0, inside up with
  | true, true =>
    some (if 2 * value < (down + up) * den then down
      else if 2 * value = (down + up) * den then tie.choose down
      else up)
  | true, false => some down
  | false, true => some up
  | false, false => none

/-- The shortest decimal that rounds to a positive number. The first grid tried is coarser than
the number, and every grid after it is ten times as fine. -/
def shortest (tie : Tie) (b : Binary) : Decimal :=
  let first : Int := (b.exponent + 53) * 30103 / 100000 + 1
  match (List.range 40).findSome? fun (i : Nat) =>
      (onGrid tie b (first - Int.ofNat i)).map fun d => Decimal.mk d (first - Int.ofNat i) with
  | some d => d
  | none => ⟨0, 0⟩

/-- The shortest decimal of the size of a double. -/
def ofFloat (tie : Tie) (x : Float) : Decimal :=
  let b := Binary.ofFloat x
  if b.mantissa = 0 then ⟨0, 0⟩ else shortest tie b

end Decimal

/-- How numbers are laid out. The point position of a number is the count of its digits before the
decimal point: positive for `12.5` (two), zero for `0.5`, negative for `0.05`. -/
structure NumberStyle where
  /-- Numbers with this point position or less take an exponent. -/
  belowPoint : Option Int
  /-- Numbers with more digits before the point than this take an exponent. -/
  abovePoint : Option Int
  /-- What ends a whole number. -/
  wholeEnd : Text
  /-- Which of two decimals is written if they are equally short and equally near. -/
  tie : Tie

namespace NumberStyle

/-- Whether a point position is written without an exponent. -/
def isPositional (s : NumberStyle) (point : Int) : Bool :=
  s.belowPoint.all (· < point) && s.abovePoint.all (point ≤ ·)

/-- A decimal with its point in place. -/
def positional (s : NumberStyle) (d : Decimal) : Text :=
  let digits := Text.ofNat d.digits
  let point : Int := digits.length + d.exponent
  if 0 ≤ d.exponent then digits ++ List.replicate d.exponent.toNat '0' ++ s.wholeEnd
  else if 0 < point then digits.take point.toNat ++ '.' :: digits.drop point.toNat
  else '0' :: '.' :: List.replicate (-point).toNat '0' ++ digits

/-- A decimal with one digit before its point and an exponent. -/
def scientific (d : Decimal) : Text :=
  let digits := Text.ofNat d.digits
  let power : Int := digits.length + d.exponent - 1
  digits.take 1 ++ (if digits.length = 1 then [] else '.' :: digits.drop 1) ++ 'e' ::
    (if 0 ≤ power then '+' :: Text.ofInt power else Text.ofInt power)

/-- A finite number in the style. -/
def write (s : NumberStyle) (x : Float) : Text :=
  let d := Decimal.ofFloat s.tie x
  (if Binary.isNegative x then ['-'] else []) ++
    if s.isPositional ((Text.ofNat d.digits).length + d.exponent) then s.positional d
    else scientific d

end NumberStyle

/-! ### Plain and fixed-point text -/

/-- Plain numbers never take an exponent, and a whole number ends in its last digit. -/
def NumberStyle.plain : NumberStyle := ⟨none, none, [], .up⟩

/-- A number as plain text, whether it is finite or not. -/
def plainFloat (x : Float) : Text :=
  if x.isNaN then "NaN".toList
  else if x.isInf then if Binary.isNegative x then "-inf".toList else "inf".toList
  else NumberStyle.plain.write x

/-- A quotient rounded to the nearest integer, a half going to the even neighbour. -/
def roundHalfEven (num den : Nat) : Nat :=
  let q := num / den
  let r := num % den
  if 2 * r < den then q else if den < 2 * r then q + 1 else q + q % 2

/-- A number with exactly `places` digits after the point (at least one). The exact value is
rounded, a half going to the even neighbour. -/
def fixedPlaces (places : Nat) (x : Float) : Text :=
  if x.isNaN || x.isInf then plainFloat x
  else
    let b := Binary.ofFloat x
    let n := roundHalfEven (Binary.numerator b.mantissa b.exponent * Nat.pow 10 places)
      (Binary.denominator b.exponent)
    let digits := Text.ofNat n
    let padded := List.replicate (places + 1 - digits.length) '0' ++ digits
    (if Binary.isNegative x then ['-'] else []) ++ padded.take (padded.length - places) ++
      '.' :: padded.drop (padded.length - places)

end Filmography
