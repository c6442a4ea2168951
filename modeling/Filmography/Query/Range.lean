import Filmography.Number.Integer

/-!
# Ranges

A range restricts a number by an inclusive bound at either end, at both or at neither. Its text is
`-`, `70-`, `-5`, `1990-1999`, or one number if both ends are the same; reading trims white space
around the text and around each bound, and cuts at the first hyphen.
-/

namespace Filmography

/-- A range of numbers: an inclusive lower and upper bound, either of which may be missing. The
lower bound may exceed the upper one, and then nothing lies in the range. -/
structure Range where
  /-- The least number in the range. -/
  min : Option UInt32 := none
  /-- The greatest number in the range. -/
  max : Option UInt32 := none
deriving DecidableEq, Repr

namespace Range

/-- The range of every number. -/
def unconstrained : Range := {}

/-- The range of one number. -/
def exactly (n : UInt32) : Range := ⟨some n, some n⟩

/-- The range of the numbers from `n` on. -/
def atLeast (n : UInt32) : Range := ⟨some n, none⟩

/-- The range of the numbers up to `n`. -/
def atMost (n : UInt32) : Range := ⟨none, some n⟩

/-- The range of the numbers from `a` to `b`. -/
def between (a b : UInt32) : Range := ⟨some a, some b⟩

/-- Whether a range restricts nothing. -/
def isUnconstrained (r : Range) : Bool :=
  r.min.isNone && r.max.isNone

/-- A bound as text. -/
def boundText (n : UInt32) : Text :=
  Text.ofNat n.toNat

/-- A range as text. -/
def print : Range → Text
  | ⟨none, none⟩ => ['-']
  | ⟨some a, none⟩ => boundText a ++ ['-']
  | ⟨none, some b⟩ => '-' :: boundText b
  | ⟨some a, some b⟩ => if a = b then boundText a else boundText a ++ '-' :: boundText b

/-- A bound is missing where there is no text for it. -/
def parseBound : Text → Except IntegerFault (Option UInt32)
  | [] => .ok none
  | t => some <$> Integer.parse32 t

/-- Read a range. If neither bound can be read, the fault is that of the lower one. -/
def parse (t : Text) : Except IntegerFault Range := do
  match t.trim.cutAt '-' with
  | (number, none) => return exactly (← Integer.parse32 number)
  | (low, some high) =>
    let min ← parseBound low.trim
    let max ← parseBound high.trim
    return ⟨min, max⟩

end Range

end Filmography
