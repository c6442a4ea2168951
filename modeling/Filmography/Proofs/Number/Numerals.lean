import Filmography.Number.Integer
import Filmography.Proofs.Results

/-!
# Numerals

What is read as an integer can be said without reading it: a text of decimal digits, perhaps after a
sign, whose number is within the bounds of the format. The reader stops at the digit where a number
leaves the bounds; as further digits never make it smaller, it is the number as a whole that counts.

* `Integer.IsDecimal`: digits and their number;
* `Integer.Format.parse_eq_ok_iff`: what is read, and as which number;
* `Integer.parse32_eq_ok_iff`: the same for unsigned integers of 32 bits.
-/

namespace Filmography.Integer

/-- A text of decimal digits, of which there is at least one, and the number that they make. -/
structure IsDecimal (t : Text) (n : Nat) : Prop where
  /-- There is a digit. -/
  ne_nil : t ≠ []
  /-- There is nothing else. -/
  digits : ∀ c ∈ t, c.isDigit = true
  /-- Together they make the number. -/
  value : Nat.ofDigitChars 10 t 0 = n

/-- The texts of the integers of a format. -/
inductive Format.Spells (f : Format) : Text → Int → Prop where
  /-- Digits without a sign. -/
  | plain {t : Text} {n : Nat} (h : IsDecimal t n) (hn : n ≤ f.greatest) : Spells f t n
  /-- Digits after a plus sign. -/
  | plus {t : Text} {n : Nat} (h : IsDecimal t n) (hn : n ≤ f.greatest) : Spells f ('+' :: t) n
  /-- Digits after a minus sign, if the format has negative numbers. -/
  | minus {t : Text} {n least : Nat} (hleast : f.least = some least) (h : IsDecimal t n)
      (hn : n ≤ least) : Spells f ('-' :: t) (-n)

/-! ### Digits -/

theorem digitValue?_ten_eq_some_iff {c : Char} {d : Nat} :
    digitValue? 10 c = some d ↔ c.isDigit = true ∧ d = c.toNat - '0'.toNat := by
  constructor
  · intro h
    have hc : c.isDigit = true := by
      by_contra hc
      have hvalue : 10 ≤ (if 48 ≤ c.toNat ∧ c.toNat ≤ 57 then c.toNat - 48
          else if 97 ≤ c.toNat ∧ c.toNat ≤ 102 then c.toNat - 87
          else if 65 ≤ c.toNat ∧ c.toNat ≤ 70 then c.toNat - 55 else 10) := by
        have hrange : ¬(48 ≤ c.toNat ∧ c.toNat ≤ 57) := by
          simpa [Char.isDigit, UInt32.le_iff_toNat_le] using hc
        rw [if_neg hrange]
        split
        · omega
        · split <;> omega
      rw [digitValue?, if_neg (Nat.not_lt.mpr hvalue)] at h
      cases h
    rw [digitValue?_ten hc] at h
    exact ⟨hc, (Option.some.inj h).symm⟩
  · rintro ⟨hc, rfl⟩
    exact digitValue?_ten hc

/-- Digits are read as their number if it is within the bound; other texts are not read. -/
theorem readDigits_eq_ok_iff {greatest v n : Nat} {overflow : IntegerFault} {t : Text}
    (hv : v ≤ greatest) :
    readDigits 10 greatest overflow v t = .ok n ↔
      (∀ c ∈ t, c.isDigit = true) ∧ Nat.ofDigitChars 10 t v = n ∧ n ≤ greatest := by
  constructor
  · intro h
    induction t generalizing v with
    | nil =>
      cases h
      exact ⟨List.forall_mem_nil _, rfl, hv⟩
    | cons c t ih =>
      rw [readDigits] at h
      split at h
      · cases h
      · next d hd =>
        obtain ⟨hc, rfl⟩ := digitValue?_ten_eq_some_iff.mp hd
        split at h
        · next hle =>
          obtain ⟨ht, hvalue, hn⟩ := ih hle h
          exact ⟨List.forall_mem_cons.mpr ⟨hc, ht⟩, by rwa [Nat.ofDigitChars_cons], hn⟩
        · cases h
  · rintro ⟨ht, rfl, hn⟩
    exact readDigits_eq_ok ht hn

theorem readMagnitude_eq_ok_iff {greatest n : Nat} {overflow : IntegerFault} {t : Text} :
    readMagnitude 10 greatest overflow t = .ok n ↔ IsDecimal t n ∧ n ≤ greatest := by
  cases t with
  | nil => exact iff_of_false (fun h => by cases h) fun h => h.1.ne_nil rfl
  | cons c t =>
    rw [readMagnitude, readDigits_eq_ok_iff (Nat.zero_le _)]
    · exact ⟨fun h => ⟨⟨List.cons_ne_nil c t, h.1, h.2.1⟩, h.2.2⟩,
        fun h => ⟨h.1.digits, h.1.value, h.2⟩⟩
    · exact List.cons_ne_nil c t

/-- Digits have no sign in front. -/
theorem IsDecimal.ne_of_head {c : Char} {t : Text} {n : Nat} (h : IsDecimal (c :: t) n) :
    c ≠ '+' ∧ c ≠ '-' := by
  have hc := h.digits c (List.mem_cons_self ..)
  constructor
  · rintro rfl
    exact absurd hc (by decide)
  · rintro rfl
    exact absurd hc (by decide)

/-- A magnitude is read and used as the number of its digits. -/
theorem map_readMagnitude_eq_ok_iff {g : Nat → Int} {greatest : Nat} {overflow : IntegerFault}
    {t : Text} {n : Int} : g <$> readMagnitude 10 greatest overflow t = .ok n ↔
      ∃ m, (IsDecimal t m ∧ m ≤ greatest) ∧ g m = n := by
  constructor
  · intro h
    obtain ⟨m, hm, rfl⟩ := exists_of_map_eq_ok h
    exact ⟨m, readMagnitude_eq_ok_iff.mp hm, rfl⟩
  · rintro ⟨m, hm, rfl⟩
    rw [readMagnitude_eq_ok_iff.mpr hm]
    rfl

/-! ### Integers -/

namespace Format

variable {f : Format} {t : Text} {c : Char} {n : Int}

theorem Spells.ne_nil (h : f.Spells t n) : t ≠ [] := by
  cases h with
  | plain h => exact h.ne_nil
  | plus => nofun
  | minus => nofun

theorem spells_plus_iff :
    f.Spells ('+' :: t) n ↔ ∃ m, (IsDecimal t m ∧ m ≤ f.greatest) ∧ Int.ofNat m = n := by
  constructor
  · intro h
    cases h with
    | plain h => exact absurd rfl h.ne_of_head.1
    | plus h hn => exact ⟨_, ⟨h, hn⟩, rfl⟩
  · rintro ⟨m, ⟨hm, hle⟩, rfl⟩
    exact .plus hm hle

theorem spells_minus_iff {least : Nat} (hleast : f.least = some least) :
    f.Spells ('-' :: t) n ↔ ∃ m, (IsDecimal t m ∧ m ≤ least) ∧ -Int.ofNat m = n := by
  constructor
  · intro h
    cases h with
    | plain h => exact absurd rfl h.ne_of_head.2
    | minus hsome h hn =>
      rw [hleast] at hsome
      cases hsome
      exact ⟨_, ⟨h, hn⟩, rfl⟩
  · rintro ⟨m, ⟨hm, hle⟩, rfl⟩
    exact .minus hleast hm hle

/-- What has no sign in front that the format knows is all digits. -/
theorem spells_plain_iff (hplus : c ≠ '+') (hminus : c = '-' → f.least = none) :
    f.Spells (c :: t) n ↔ ∃ m, (IsDecimal (c :: t) m ∧ m ≤ f.greatest) ∧ Int.ofNat m = n := by
  constructor
  · intro h
    cases h with
    | plain h hn => exact ⟨_, ⟨h, hn⟩, rfl⟩
    | plus => exact absurd rfl hplus
    | minus hsome =>
      rw [hminus rfl] at hsome
      cases hsome
  · rintro ⟨m, ⟨hm, hle⟩, rfl⟩
    exact .plain hm hle

/-- Integers are read from their texts, and from nothing else. -/
theorem parse_eq_ok_iff : f.parse t = .ok n ↔ f.Spells t n := by
  cases t with
  | nil => exact iff_of_false (fun h => by cases h) fun h => h.ne_nil rfl
  | cons c t =>
    rw [parse, parseBase]
    by_cases hplus : c = '+'
    · subst hplus
      rw [if_pos rfl, map_readMagnitude_eq_ok_iff, spells_plus_iff]
    · rw [if_neg hplus]
      split
      · next hleast =>
        exact map_readMagnitude_eq_ok_iff.trans (spells_plain_iff hplus fun _ => hleast).symm
      · next least hleast =>
        split
        · next hminus =>
          subst hminus
          rw [map_readMagnitude_eq_ok_iff, spells_minus_iff hleast]
        · next hminus =>
          exact map_readMagnitude_eq_ok_iff.trans
            (spells_plain_iff hplus fun h => absurd h hminus).symm

end Format

/-- The characters of an integer are digits and signs. -/
theorem Format.Spells.isDigit_or_sign {f : Format} {t : Text} {n : Int} (h : f.Spells t n) :
    ∀ c ∈ t, c = '+' ∨ c = '-' ∨ c.isDigit = true := by
  have hdigits : ∀ {u : Text} {m : Nat}, IsDecimal u m →
      ∀ c ∈ u, c = '+' ∨ c = '-' ∨ c.isDigit = true :=
    fun hu c hc => .inr (.inr (hu.digits c hc))
  cases h with
  | plain h => exact hdigits h
  | plus h => exact List.forall_mem_cons.mpr ⟨.inl rfl, hdigits h⟩
  | minus _ h => exact List.forall_mem_cons.mpr ⟨.inr (.inl rfl), hdigits h⟩

/-- Unsigned integers of 32 bits are read from their texts, and from nothing else. -/
theorem parse32_eq_ok_iff {t : Text} {n : UInt32} :
    parse32 t = .ok n ↔ Format.unsigned32.Spells t n.toNat := by
  rw [parse32]
  constructor
  · intro h
    obtain ⟨m, hm, rfl⟩ := exists_of_map_eq_ok h
    have hspells := Format.parse_eq_ok_iff.mp hm
    obtain ⟨k, rfl, hk⟩ : ∃ k : Nat, m = k ∧ k ≤ 0xFFFFFFFF := by
      cases hspells with
      | plain _ hn => exact ⟨_, rfl, hn⟩
      | plus _ hn => exact ⟨_, rfl, hn⟩
      | minus hleast => cases hleast
    have hk' : (UInt32.ofNat k).toNat = k := UInt32.toNat_ofNat_of_lt' (by
      simp only [UInt32.size]
      omega)
    rw [Int.toNat_natCast, hk']
    exact hspells
  · intro h
    rw [Format.parse_eq_ok_iff.mpr h]
    show Except.ok (UInt32.ofNat (Int.toNat n.toNat)) = _
    rw [Int.toNat_natCast, UInt32.ofNat_toNat]

end Filmography.Integer
