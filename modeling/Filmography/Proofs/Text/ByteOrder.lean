import Mathlib.Data.Char
import Mathlib.Order.Compare
import Filmography.Data.Utf8

/-!
# The order of texts and that of their bytes

Texts are compared character by character, and a database compares the bytes that they are kept as.
It comes to the same. A character of more bytes has a greater first byte and a greater code point,
and the bytes of two characters of equally many bytes are the digits of their code points, the most
significant one first.

* `Utf8.encode_lt_encode_iff`: the bytes of texts are ordered as the texts are;
* `Utf8.encode_inj`: different texts have different bytes.
-/

namespace Filmography

namespace Utf8

/-- Bytes are ordered by the first of them, and if it is the same, by what follows. -/
private theorem cons_lt_cons {m n : Nat} (hn : n < 256) (hle : m ≤ n) {xs ys : Bytes}
    (hrest : m = n → xs < ys) : UInt8.ofNat m :: xs < UInt8.ofNat n :: ys := by
  rw [List.cons_lt_cons_iff]
  rcases Nat.lt_or_eq_of_le hle with hlt | rfl
  · refine .inl ?_
    rw [UInt8.lt_iff_toNat_lt, UInt8.toNat_ofNat_of_lt' (Nat.lt_trans hlt hn),
      UInt8.toNat_ofNat_of_lt' hn]
    exact hlt
  · exact .inr ⟨rfl, hrest rfl⟩

/-- A lesser character has lesser bytes, whatever follows either. -/
theorem encodeChar_append_lt {a b : Char} (hab : a < b) (xs ys : Bytes) :
    String.utf8EncodeChar a ++ xs < String.utf8EncodeChar b ++ ys := by
  have hlt : a.val.toNat < b.val.toNat := hab
  have hb : b.val.toNat < 0x110000 := by
    have hvalid := b.valid
    simp only [UInt32.isValidChar, Nat.isValidChar] at hvalid
    omega
  simp only [String.utf8EncodeChar]
  generalize a.val.toNat = m at hlt
  generalize b.val.toNat = n at hlt hb
  -- byte by byte: the numbers would be equal if all their digits were
  split_ifs <;> simp only [List.cons_append, List.nil_append] <;>
    repeat' refine cons_lt_cons (by omega) (by omega) fun _ => ?_
  all_goals omega

/-- What follows the same bytes decides. -/
private theorem append_lt_append_iff (bs : Bytes) {xs ys : Bytes} :
    bs ++ xs < bs ++ ys ↔ xs < ys := by
  induction bs with
  | nil => rfl
  | cons b bs ih => simp [ih]

/-- The bytes of texts are ordered as the texts are. -/
theorem encode_lt_encode_iff {s t : Text} : encode s < encode t ↔ compare s t = .lt := by
  have hcons (c : Char) (u : Text) : encode (c :: u) = String.utf8EncodeChar c ++ encode u := rfl
  induction s generalizing t with
  | nil =>
    cases t with
    | nil => simp [encode]
    | cons b t =>
      obtain ⟨x, xs, hx⟩ := List.exists_cons_of_ne_nil (String.utf8EncodeChar_ne_nil (c := b))
      simp [encode, hx]
  | cons a s ih =>
    cases t with
    | nil => simp [encode]
    | cons b t =>
      rw [hcons, hcons, List.compare_cons_cons]
      rcases lt_trichotomy a b with hab | rfl | hba
      · simp [encodeChar_append_lt hab, compare_lt_iff_lt.mpr hab]
      · simp [append_lt_append_iff, ih, Std.compare_self]
      · have hnot := List.lt_asymm (encodeChar_append_lt hba (encode t) (encode s))
        simp [hnot, compare_gt_iff_gt.mpr hba]

/-- Different texts have different bytes. -/
theorem encode_inj {s t : Text} : encode s = encode t ↔ s = t := by
  constructor
  · intro h
    have hdecode := decode_encode s
    rw [h, decode_encode] at hdecode
    exact (Except.ok.inj hdecode).symm
  · rintro rfl
    rfl

end Utf8

end Filmography
