import Mathlib
import Filmography.Query.Basic

/-!
# Equal floating-point numbers

Two floating-point numbers can compare equal without being the same: zero has two signs. Any other
number is the same as every number that compares equal to it, because the sign, the exponent and the
mantissa that are compared determine its bits.

* `eq_of_beq_of_finite`: numbers other than zero that compare equal are the same;
* `Query.eq_default_of_beq`: so is the default least similarity.
-/

namespace Filmography

open Float.Model (UnpackedFloat Format)
open Float.Model.UnpackedFloat

/-- Sign, exponent and mantissa are all the bits there are. -/
private theorem eq_of_components {a b : BitVec Format.binary64.numBits}
    (hsign : unpackSign a = unpackSign b) (hexponent : unpackExponent a = unpackExponent b)
    (hmantissa : unpackMantissa a = unpackMantissa b) : a = b := by
  have hs := congrArg BitVec.toNat hsign
  have he := congrArg BitVec.toNat hexponent
  have hm := congrArg BitVec.toNat hmantissa
  simp only [unpackSign, unpackExponent, unpackMantissa, BitVec.toNat_cast,
    BitVec.extractLsb_toNat, Nat.shiftRight_eq_div_pow] at hs he hm
  have ha := a.isLt
  have hb := b.isLt
  refine BitVec.eq_of_toNat_eq ?_
  simp [Format.numBits] at ha hb hs he hm
  omega

/-- What a finite number other than zero is unpacked from: subnormal numbers have the exponent zero,
and all others a leading bit that is not written. -/
private theorem components_of_unpack {b : BitVec Format.binary64.numBits} {s : Sign} {m : Nat}
    {e : Int} {h : 0 < m} (hb : unpack Format.binary64 b = .finite s m e h) :
    s = Sign.ofBitVec (unpackSign b) ∧
      ((unpackExponent b).toNat = 0 ∧ m = (unpackMantissa b).toNat ∧ e = -1074 ∨
        (unpackExponent b).toNat ≠ 0 ∧ m = 0x10000000000000 + (unpackMantissa b).toNat ∧
          e = (unpackExponent b).toNat - 1075) := by
  have hbias : (Format.binary64.exponentBias + Format.binary64.mantissaBitsWithoutImplicit : Int) =
      1075 := by decide
  simp only [unpack, hbias] at hb
  split at hb
  · split at hb <;> cases hb
  · split at hb
    · next hexponent =>
      split at hb
      · cases hb
      · cases hb
        exact ⟨rfl, .inl ⟨by rw [hexponent]; rfl, rfl, by rw [hexponent]; rfl⟩⟩
    · next hexponent =>
      cases hb
      refine ⟨rfl, .inr ⟨fun h0 => hexponent (BitVec.eq_of_toNat_eq h0), ?_, rfl⟩⟩
      have hlt := (unpackMantissa b).isLt
      rw [BitVec.toNat_append, ← Nat.shiftLeft_add_eq_or_of_lt hlt]
      rfl

private theorem ofBitVec_inj {a b : BitVec 1} (h : Sign.ofBitVec a = Sign.ofBitVec b) : a = b := by
  have ha := a.isLt
  have hb := b.isLt
  rw [Sign.ofBitVec, Sign.ofBitVec] at h
  split at h
  · next ha0 =>
    split at h
    · next hb0 => rw [ha0, hb0]
    · cases h
  · next ha0 =>
    split at h
    · cases h
    · next hb0 =>
      have ha1 : a.toNat ≠ 0 := fun h0 => ha0 (BitVec.eq_of_toNat_eq h0)
      have hb1 : b.toNat ≠ 0 := fun h0 => hb0 (BitVec.eq_of_toNat_eq h0)
      exact BitVec.eq_of_toNat_eq (by omega)

/-- A finite number other than zero is unpacked from one word only. -/
private theorem eq_of_unpack_eq {a b : BitVec Format.binary64.numBits} {s : Sign} {m : Nat}
    {e : Int} {h : 0 < m} (ha : unpack Format.binary64 a = .finite s m e h)
    (hb : unpack Format.binary64 b = .finite s m e h) : a = b := by
  obtain ⟨hsa, ha⟩ := components_of_unpack ha
  obtain ⟨hsb, hb⟩ := components_of_unpack hb
  -- a leading bit tells the two kinds of numbers apart
  have hma : (unpackMantissa a).toNat < 0x10000000000000 := (unpackMantissa a).isLt
  have hmb : (unpackMantissa b).toNat < 0x10000000000000 := (unpackMantissa b).isLt
  refine eq_of_components (ofBitVec_inj (hsa.symm.trans hsb)) (BitVec.eq_of_toNat_eq ?_)
    (BitVec.eq_of_toNat_eq ?_)
  · omega
  · omega

/-- What compares equal to a finite number other than zero has the same parts. -/
private theorem eq_of_compare_eq {u : UnpackedFloat} {s : Sign} {m : Nat} {e : Int} {h : 0 < m}
    (hu : u.compare (.finite s m e h) = some .eq) : u = .finite s m e h := by
  cases u with
  | finite s' m' e' h' =>
    cases s <;> cases s' <;>
      simp_all [UnpackedFloat.compare]
  | infinity s' => cases s' <;> cases s <;> cases hu
  | notANumber => cases hu
  | zero s' => cases s <;> cases hu

/-- A finite number other than zero is the same as every number that compares equal to it. -/
theorem eq_of_beq_of_finite {x y : Float} {s : Sign} {m : Nat} {e : Int} {h : 0 < m}
    (hy : y.toModel.unpack = .finite s m e h) (hxy : (x == y) = true) : x = y := by
  have hcompare : x.toModel.unpack.compare y.toModel.unpack = some .eq := eq_of_beq hxy
  rw [hy] at hcompare
  have hx := eq_of_compare_eq hcompare
  obtain ⟨⟨⟨xbits⟩, _⟩⟩ := x
  obtain ⟨⟨⟨ybits⟩, _⟩⟩ := y
  obtain rfl : xbits = ybits := eq_of_unpack_eq hx hy
  rfl

/-- What compares equal to the default least similarity is the default least similarity. -/
theorem Query.eq_default_of_beq {x : Float} (h : (x == 0.3) = true) : x = 0.3 := by
  have hparts : (0.3 : Float).toModel.unpack =
      .finite .positive 5404319552844595 (-54) (by decide) := by rfl
  exact eq_of_beq_of_finite hparts h

end Filmography
