import Filmography.Text.Basic

/-!
# Bytes as text

Text is kept in files as UTF-8. Reading it back says, if the bytes are no text, how many of them at
their start are.

* `Utf8.decode_encode` says that text reads back from its bytes.
-/

namespace Filmography

/-- The content of a file, or a part of it. -/
abbrev Bytes := List UInt8

namespace Utf8

/-- The bytes of a text. -/
def encode (t : Text) : Bytes :=
  t.flatMap String.utf8EncodeChar

/-- The count of bytes of a text. -/
def size (t : Text) : Nat :=
  (encode t).length

/-- The character at the start of some bytes. It takes at most four of them. -/
def first? (bytes : Bytes) : Option Char :=
  (bytes.take 4).toByteArray.utf8DecodeChar? 0

/-- Read bytes as text, `offset` bytes of which have been read. The fault is the offset of the first
byte that starts no character. -/
def decodeFrom (offset : Nat) : Bytes → Except Nat Text
  | [] => .ok []
  | b :: rest =>
    match first? (b :: rest) with
    | none => .error offset
    | some c => (c :: ·) <$> decodeFrom (offset + c.utf8Size) (rest.drop (c.utf8Size - 1))
termination_by bytes => bytes.length
decreasing_by simp only [List.length_drop, List.length_cons]; omega

/-- Read bytes as text. The fault is the offset of the first byte that starts no character. -/
def decode (bytes : Bytes) : Except Nat Text :=
  decodeFrom 0 bytes

/-! ### Text reads back -/

theorem first?_encodeChar_append (c : Char) (rest : Bytes) :
    first? (String.utf8EncodeChar c ++ rest) = some c := by
  have hlen : (String.utf8EncodeChar c).length ≤ 4 := by
    rw [String.length_utf8EncodeChar]
    exact Char.utf8Size_le_four c
  rw [first?, List.take_append, List.take_of_length_le hlen, List.toByteArray_append]
  exact ByteArray.utf8DecodeChar?_utf8EncodeChar_append

theorem decodeFrom_encode (offset : Nat) (t : Text) : decodeFrom offset (encode t) = .ok t := by
  induction t generalizing offset with
  | nil => simp [encode, decodeFrom]
  | cons c t ih =>
    have hfirst := first?_encodeChar_append c (encode t)
    have hlen : (String.utf8EncodeChar c).length = c.utf8Size := String.length_utf8EncodeChar c
    have hpos : 0 < c.utf8Size := Char.utf8Size_pos c
    show decodeFrom offset (String.utf8EncodeChar c ++ encode t) = _
    cases hb : String.utf8EncodeChar c with
    | nil => rw [hb] at hlen; simp at hlen; omega
    | cons b bs =>
      rw [hb] at hfirst hlen
      rw [List.cons_append] at hfirst ⊢
      rw [decodeFrom, hfirst]
      have : (bs ++ encode t).drop (c.utf8Size - 1) = encode t := by
        rw [← hlen, List.length_cons, Nat.add_sub_cancel, List.drop_left]
      simp only [this, ih]
      rfl

/-- Text reads back from its bytes. -/
theorem decode_encode (t : Text) : decode (encode t) = .ok t :=
  decodeFrom_encode 0 t

end Utf8

end Filmography
