/-!
# Atoms

An atom identifies an entity. Zero is reserved and identifies nothing.
-/

namespace Filmography

/-- The identifier of an entity: a word that is not zero. -/
structure Atom where
  /-- The identifier as a number. -/
  val : UInt32
  /-- Zero is reserved. -/
  ne_zero : val ≠ 0
deriving DecidableEq, Repr

namespace Atom

/-- The atom with the given number, unless that is zero. -/
def ofWord? (n : UInt32) : Option Atom :=
  if h : n ≠ 0 then some ⟨n, h⟩ else none

@[simp]
theorem ofWord?_zero : ofWord? 0 = none := rfl

@[simp]
theorem ofWord?_val (a : Atom) : ofWord? a.val = some a := by
  simp [ofWord?, a.ne_zero]

/-- The number of an atom, as the tables hold it. -/
def toInt (a : Atom) : Int := Int.ofNat a.val.toNat

theorem toInt_injective {a b : Atom} (h : a.toInt = b.toInt) : a = b := by
  have hval : a.val = b.val := UInt32.toNat_inj.mp (Int.ofNat.inj h)
  cases a
  cases b
  cases hval
  rfl

theorem toInt_inj {a b : Atom} : a.toInt = b.toInt ↔ a = b :=
  ⟨toInt_injective, congrArg toInt⟩

end Atom

end Filmography
