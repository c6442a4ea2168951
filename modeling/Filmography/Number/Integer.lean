import Filmography.Text.Basic

/-!
# Integers written in text

An integer is written as an optional sign and at least one digit. `Format.parse` reads one within
the bounds of a format and says what is wrong with anything else. Digits are read from the left,
so a number is too large at the digit where it leaves the bounds, whatever follows.

`Format.parse_ofNat` is the law: every natural number in bounds reads back from its digits.
-/

namespace Filmography

/-- What is wrong with a text that should be an integer. -/
inductive IntegerFault where
  /-- There is nothing to read. -/
  | empty
  /-- A character is not a digit, or there is a sign and nothing else. -/
  | invalidDigit
  /-- The number is above the greatest of its format. -/
  | tooLarge
  /-- The number is below the least of its format. -/
  | tooSmall
deriving DecidableEq, Repr

/-- The wording of an integer fault. -/
def IntegerFault.message : IntegerFault → String
  | .empty => "cannot parse integer from empty string"
  | .invalidDigit => "invalid digit found in string"
  | .tooLarge => "number too large to fit in target type"
  | .tooSmall => "number too small to fit in target type"

namespace Integer

/-- The value of a digit in the given base (at most sixteen), in either letter case. -/
def digitValue? (base : Nat) (c : Char) : Option Nat :=
  let n := c.toNat
  let value :=
    if 48 ≤ n ∧ n ≤ 57 then n - 48
    else if 97 ≤ n ∧ n ≤ 102 then n - 87
    else if 65 ≤ n ∧ n ≤ 70 then n - 55
    else base
  if value < base then some value else none

/-- Read digits after those with value `value`, failing with `overflow` where the number passes
`greatest`. -/
def readDigits (base greatest : Nat) (overflow : IntegerFault) (value : Nat) :
    Text → Except IntegerFault Nat
  | [] => .ok value
  | c :: t =>
    match digitValue? base c with
    | none => .error .invalidDigit
    | some d =>
      if base * value + d ≤ greatest then readDigits base greatest overflow (base * value + d) t
      else .error overflow

/-- At least one digit. -/
def readMagnitude (base greatest : Nat) (overflow : IntegerFault) :
    Text → Except IntegerFault Nat
  | [] => .error .invalidDigit
  | t => readDigits base greatest overflow 0 t

/-- The integers that a field or an argument can hold: from `-least` to `greatest`. A format
without negative numbers knows no minus sign. -/
structure Format where
  /-- How far the format reaches below zero, if it does. -/
  least : Option Nat
  /-- The greatest number of the format. -/
  greatest : Nat

namespace Format

/-- Unsigned integers of 32 bits. -/
def unsigned32 : Format := ⟨none, 0xFFFFFFFF⟩

/-- Unsigned integers of 64 bits. -/
def unsigned64 : Format := ⟨none, 0xFFFFFFFFFFFFFFFF⟩

/-- Signed integers of 32 bits. -/
def signed32 : Format := ⟨some 0x80000000, 0x7FFFFFFF⟩

/-- Signed integers of 64 bits. -/
def signed64 : Format := ⟨some 0x8000000000000000, 0x7FFFFFFFFFFFFFFF⟩

/-- Read a whole text as an integer in the given base. -/
def parseBase (f : Format) (base : Nat) : Text → Except IntegerFault Int
  | [] => .error .empty
  | c :: t =>
    if c = '+' then Int.ofNat <$> readMagnitude base f.greatest .tooLarge t
    else
      match f.least with
      | none => Int.ofNat <$> readMagnitude base f.greatest .tooLarge (c :: t)
      | some least =>
        if c = '-' then (fun n => -Int.ofNat n) <$> readMagnitude base least .tooSmall t
        else Int.ofNat <$> readMagnitude base f.greatest .tooLarge (c :: t)

/-- Read a whole text as a decimal integer. -/
def parse (f : Format) (t : Text) : Except IntegerFault Int :=
  f.parseBase 10 t

/-- Read a whole text as an integer that is hexadecimal after `0x` and decimal otherwise. -/
def parsePrefixed (f : Format) : Text → Except IntegerFault Int
  | '0' :: 'x' :: digits => f.parseBase 16 digits
  | t => f.parse t

end Format

/-! ### Reading back decimal digits -/

/-- A decimal digit has the value by which it is written. -/
theorem digitValue?_ten {c : Char} (h : c.isDigit) :
    digitValue? 10 c = some (c.toNat - '0'.toNat) := by
  have h0 : 48 ≤ c.toNat ∧ c.toNat ≤ 57 := by
    simp only [Char.isDigit, ge_iff_le, Bool.and_eq_true, decide_eq_true_eq,
      UInt32.le_iff_toNat_le] at h
    exact h
  have h1 : c.toNat - 48 < 10 := by omega
  simp [digitValue?, h0, h1]

/-- Appending digits never makes a number smaller. -/
theorem le_ofDigitChars (l : Text) (v : Nat) : v ≤ Nat.ofDigitChars 10 l v := by
  induction l generalizing v with
  | nil => simp
  | cons c l ih =>
    rw [Nat.ofDigitChars_cons]
    exact Nat.le_trans (by omega) (ih _)

/-- Digits whose number is in bounds are read as that number. -/
theorem readDigits_eq_ok {greatest : Nat} {overflow : IntegerFault} {l : Text} {v : Nat}
    (hl : ∀ c ∈ l, c.isDigit) (hg : Nat.ofDigitChars 10 l v ≤ greatest) :
    readDigits 10 greatest overflow v l = .ok (Nat.ofDigitChars 10 l v) := by
  induction l generalizing v with
  | nil => simp [readDigits]
  | cons c l ih =>
    rw [Nat.ofDigitChars_cons] at hg ⊢
    have hle := Nat.le_trans (le_ofDigitChars l _) hg
    rw [readDigits, digitValue?_ten (hl c (by simp))]
    simp only [hle, if_true]
    exact ih (fun d hd => hl d (by simp [hd])) hg

/-- A natural number in bounds reads back from its decimal digits. -/
theorem Format.parse_ofNat {f : Format} {n : Nat} (h : n ≤ f.greatest) :
    f.parse (Text.ofNat n) = .ok (Int.ofNat n) := by
  have hd : ∀ c ∈ Nat.toDigits 10 n, c.isDigit := fun c hc =>
    Nat.isDigit_of_mem_toDigits (by decide) (by decide) hc
  have hr : readDigits 10 f.greatest .tooLarge 0 (Nat.toDigits 10 n) =
      .ok (Nat.ofDigitChars 10 (Nat.toDigits 10 n) 0) :=
    readDigits_eq_ok hd (by simpa [Nat.ofDigitChars_ten_toDigits] using h)
  rw [Nat.ofDigitChars_ten_toDigits] at hr
  unfold Format.parse Text.ofNat
  cases hl : Nat.toDigits 10 n with
  | nil => exact absurd hl Nat.toDigits_ne_nil
  | cons c t =>
    rw [hl] at hr hd
    have hc := hd c (by simp)
    have hp : c ≠ '+' := by rintro rfl; exact absurd hc (by decide)
    have hm : c ≠ '-' := by rintro rfl; exact absurd hc (by decide)
    cases hf : f.least <;>
      simp [Format.parseBase, hf, hp, hm, readMagnitude, hr, Functor.map, Except.map]

/-- Read a whole text as an unsigned integer of 32 bits. -/
def parse32 (t : Text) : Except IntegerFault UInt32 :=
  (fun n => UInt32.ofNat n.toNat) <$> Format.unsigned32.parse t

end Integer

end Filmography
