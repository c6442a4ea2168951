import Filmography.Number.Decimal

/-!
# Numbers for similarities

Similarities are exact ratios. A result carries its similarity as a number of a type `ν` that can
stand for ratios, and so do the thresholds with which similarities are compared. Two such types are
given: floating-point numbers, which round a ratio to the nearest one, and the ratios themselves.
-/

namespace Filmography

/-- A type of numbers for similarities and thresholds. -/
class Score (ν : Type) where
  /-- The number that stands for a ratio. -/
  ofRatio : Rat → ν
  /-- Whether a similarity is at least a threshold. -/
  reaches : ν → ν → Bool
  /-- Whether a number is above another. -/
  exceeds : ν → ν → Bool
  /-- The lead of one similarity over another. -/
  lead : ν → ν → ν

namespace Score

/-- Floating-point numbers round every operation to the nearest number. -/
instance : Score Float where
  ofRatio r := Float.ofInt r.num / Float.ofNat r.den
  reaches x y := y ≤ x
  exceeds x y := y < x
  lead x y := x - y

/-- Ratios are exact. -/
instance : Score Rat where
  ofRatio r := r
  reaches x y := y ≤ x
  exceeds x y := y < x
  lead x y := x - y

variable {ν : Type} [Score ν]

/-- What a result carries if its name was not compared by similarity. -/
def unmeasured : ν := ofRatio (-1)

/-- Whether a number is a similarity: all similarities lie above the mark for none. -/
def isMeasured (x : ν) : Bool := exceeds x unmeasured

end Score

end Filmography
