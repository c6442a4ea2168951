/-!
# Text

Text is a list of Unicode characters, so that everything said about words, braces and trigrams is
an induction on a list. This module holds what every other module needs of it: white space,
trimming, cutting at a separator and splitting into runs.

* `Text.trim` drops white space at both ends;
* `Text.cutAt` splits at the first occurrence of a character;
* `Text.runs p` lists the maximal runs of characters satisfying `p`, in order.
-/

namespace Filmography

/-- A piece of text: its characters in order. -/
abbrev Text := List Char

namespace Text

/-- White space is the Unicode property `White_Space`: the ASCII blanks, the next-line character,
the no-break space and the blanks of the general punctuation and ideographic blocks. -/
def isSpace (c : Char) : Bool :=
  let n := c.toNat
  (0x9 ≤ n && n ≤ 0xD) || n == 0x20 || n == 0x85 || n == 0xA0 || n == 0x1680 ||
    (0x2000 ≤ n && n ≤ 0x200A) || n == 0x2028 || n == 0x2029 || n == 0x202F || n == 0x205F ||
    n == 0x3000

/-! ### Trimming -/

/-- The text without the white space it starts with. -/
def trimStart (t : Text) : Text :=
  t.dropWhile isSpace

/-- The text without the white space it ends in. A character stays if it is not white space or if
something after it stays. -/
def trimEnd : Text → Text
  | [] => []
  | c :: t =>
    match trimEnd t with
    | [] => if isSpace c then [] else [c]
    | kept => c :: kept

/-- The text without the white space at either end. -/
def trim (t : Text) : Text :=
  trimEnd (trimStart t)

theorem length_trimStart_le (t : Text) : (trimStart t).length ≤ t.length :=
  (List.dropWhile_sublist isSpace).length_le

theorem length_trimEnd_le (t : Text) : (trimEnd t).length ≤ t.length := by
  induction t with
  | nil => simp [trimEnd]
  | cons c t ih =>
    rw [trimEnd]
    split
    · split <;> simp
    · next h => simp only [List.length_cons]; omega

theorem length_trim_le (t : Text) : (trim t).length ≤ t.length :=
  Nat.le_trans (length_trimEnd_le _) (length_trimStart_le _)

/-! ### Cutting and splitting -/

/-- The text before the first `sep`, and what follows that `sep` if there is one. -/
def cutAt (sep : Char) : Text → Text × Option Text
  | [] => ([], none)
  | c :: t =>
    if c = sep then ([], some t)
    else
      let r := cutAt sep t
      (c :: r.1, r.2)

/-- What follows the cut is shorter than the whole. -/
theorem length_lt_of_cutAt {sep : Char} {t a : Text} (h : (cutAt sep t).2 = some a) :
    a.length < t.length := by
  induction t with
  | nil => simp [cutAt] at h
  | cons c t ih =>
    rw [cutAt] at h
    split at h
    · cases h; simp
    · exact Nat.lt_succ_of_lt (ih h)

/-- Close the piece that is being read: an empty one does not count. -/
def settle : Text × List Text → List Text
  | ([], ts) => ts
  | (w, ts) => w :: ts

/-- The run that starts the text (possibly empty), and the runs after it. -/
def runsFrom (p : Char → Bool) : Text → Text × List Text
  | [] => ([], [])
  | c :: t =>
    let r := runsFrom p t
    if p c then (c :: r.1, r.2) else ([], settle r)

/-- The maximal non-empty runs of characters satisfying `p`, in order. -/
def runs (p : Char → Bool) (t : Text) : List Text :=
  settle (runsFrom p t)

/-- The words of a text: its maximal runs without white space. -/
def words (t : Text) : List Text :=
  runs (fun c => !isSpace c) t

/-- The pieces between the occurrences of `sep`: one more than there are occurrences. -/
def splitOn (sep : Char) : Text → List Text
  | [] => [[]]
  | c :: t =>
    if c = sep then [] :: splitOn sep t
    else
      match splitOn sep t with
      | [] => [[c]]
      | first :: rest => (c :: first) :: rest

/-- The pieces joined by a separator. -/
def joined (sep : Text) (pieces : List Text) : Text :=
  sep.intercalate pieces

/-! ### Numbers as text -/

/-- A natural number in decimal digits. -/
def ofNat (n : Nat) : Text :=
  Nat.toDigits 10 n

/-- An integer in decimal digits, with a minus sign if it is negative. -/
def ofInt : Int → Text
  | .ofNat n => ofNat n
  | .negSucc n => '-' :: ofNat (n + 1)

end Text

end Filmography
